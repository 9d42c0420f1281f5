import Mathlib.Data.List.Pairwise
import TokenTree.Grammar

/-!
# Slots of blocks

A block that is registered again replaces the one in its slot, so a grammar that is made by steps
never has two blocks in one slot. In particular a name belongs to one block at most, and the block
of a name can be looked up.
-/

namespace TokenTree

namespace Block

/-- Being in one slot goes both ways. -/
theorem sameSlot_comm (left right : Block) : left.sameSlot right = right.sameSlot left := by
  unfold sameSlot
  cases left.name <;> cases right.name <;> simp [eq_comm]

/-- Two blocks of one name are in one slot. -/
theorem sameSlot_of_name {left right : Block} {name : Kind} (hleft : left.name = some name)
    (hright : right.name = some name) : left.sameSlot right = true := by
  simp [sameSlot, hleft, hright]

end Block

namespace Grammar

/-- No two blocks are in one slot. -/
def Slotted (grammar : Grammar) : Prop :=
  grammar.blocks.Pairwise fun left right => left.sameSlot right = false

/-- The block of a name. -/
def named? (grammar : Grammar) (name : Kind) : Option Block :=
  grammar.blocks.find? fun block => block.name = some name

/-- A block that is added comes into a slot that was freed. -/
theorem slotted_addBlock {grammar : Grammar} (hslotted : grammar.Slotted) (block : Block) :
    (grammar.addBlock block).Slotted := by
  show List.Pairwise _ (grammar.blocks.filter (fun old => !old.sameSlot block) ++ [block])
  rw [List.pairwise_append]
  refine ⟨hslotted.filter _, List.pairwise_singleton _ _, ?_⟩
  intro old hold other hother
  obtain rfl : other = block := List.mem_singleton.1 hother
  simpa using (List.mem_filter.1 hold).2

/-- No step puts two blocks into one slot. -/
theorem slotted_apply {grammar : Grammar} (hslotted : grammar.Slotted) (step : Step) :
    (grammar.apply step).Slotted := by
  cases step with
  | block | blockWith | namedBlock | namedBlockWith => exact slotted_addBlock hslotted _
  | token | group | maxDepth => exact hslotted

/-- However a grammar is made, no two of its blocks are in one slot. -/
theorem slotted_ofSteps (steps : List Step) : (ofSteps steps).Slotted := by
  have hextend (grammar : Grammar) (hslotted : grammar.Slotted) :
      (grammar.extend steps).Slotted := by
    induction steps generalizing grammar with
    | nil => exact hslotted
    | cons step rest ih => exact ih _ (slotted_apply hslotted step)
  exact hextend empty List.Pairwise.nil

/-- A block with a name is the block of that name. -/
theorem named?_eq_some {grammar : Grammar} {block : Block} {name : Kind}
    (hslotted : grammar.Slotted) (hmem : block ∈ grammar.blocks) (hname : block.name = some name) :
    grammar.named? name = some block := by
  obtain ⟨found, hfound⟩ : ∃ found, grammar.named? name = some found := by
    rw [← Option.isSome_iff_exists, named?, List.find?_isSome]
    exact ⟨block, hmem, by simpa using hname⟩
  have hfoundName : found.name = some name := by simpa using List.find?_some hfound
  have hfoundMem : found ∈ grammar.blocks := List.mem_of_find?_eq_some hfound
  by_cases heq : found = block
  · rw [hfound, heq]
  · have hsymm : Std.Symm fun left right : Block => left.sameSlot right = false :=
      ⟨fun left right hdistinct => by rw [Block.sameSlot_comm, hdistinct]⟩
    have hdistinct := hslotted.forall hfoundMem hmem heq
    rw [Block.sameSlot_of_name hfoundName hname] at hdistinct
    cases hdistinct

end Grammar

end TokenTree
