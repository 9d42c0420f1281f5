import TokenTree.Grammar

/-!
# What becomes of bodies

A block that is registered without a reaction wraps its body: the body becomes a branch, tagged with
the name of the block if it has one. Such a block never fails. A grammar that is made without
reactions to blocks has no other blocks.
-/

namespace TokenTree

namespace Block

/-- The reaction of the block makes a node of every body. -/
def Total (block : Block) : Prop := ∀ body, ∃ node, (block.reaction body).result = .ok node

/-- The block makes a branch of its body, with its name as the tag. -/
def WrapsBody (block : Block) : Prop := block.reaction = block.name.elim toList toTagged

variable {block : Block}

/-- The branch around a body. -/
theorem WrapsBody.result_reaction (hwraps : block.WrapsBody) (body : Tree) :
    (block.reaction body).result = .ok (.branch block.name body.items) := by
  rw [hwraps]
  cases block.name <;> rfl

/-- There is a branch around every body. -/
theorem WrapsBody.total (hwraps : block.WrapsBody) : block.Total :=
  fun body => ⟨_, hwraps.result_reaction body⟩

end Block

namespace Grammar

/-- The step registers no reaction to a block. -/
def Step.leavesBodies : Step → Bool
  | .blockWith _ _ _ | .namedBlockWith _ _ _ _ => false
  | _ => true

/-- A block that is added wraps its body where it is made to. -/
theorem wrapsBody_addBlock {grammar : Grammar} (hwraps : ∀ block ∈ grammar.blocks, block.WrapsBody)
    {block : Block} (hblock : block.WrapsBody) :
    ∀ other ∈ (grammar.addBlock block).blocks, other.WrapsBody := by
  intro other hother
  obtain hold | hnew := List.mem_append.1 hother
  · exact hwraps other (List.mem_filter.1 hold).1
  · obtain rfl := List.mem_singleton.1 hnew
    exact hblock

/-- Blocks without reactions of their own wrap their bodies. -/
theorem wrapsBody_ofSteps {steps : List Step} (hsteps : steps.all Step.leavesBodies = true) :
    ∀ block ∈ (ofSteps steps).blocks, block.WrapsBody := by
  have hextend (grammar : Grammar) (hgrammar : ∀ block ∈ grammar.blocks, block.WrapsBody) :
      ∀ block ∈ (grammar.extend steps).blocks, block.WrapsBody := by
    induction steps generalizing grammar with
    | nil => exact hgrammar
    | cons step rest ih =>
        rw [List.all_cons, Bool.and_eq_true] at hsteps
        refine ih hsteps.2 _ ?_
        cases step with
        | block | namedBlock => exact wrapsBody_addBlock hgrammar rfl
        | blockWith | namedBlockWith => cases hsteps.1
        | token | group | maxDepth => exact hgrammar
  exact hextend empty fun _ hblock => nomatch hblock

end Grammar

end TokenTree
