import TokenTree.Proofs.Grammar.Slots
import TokenTree.Proofs.Registration

/-!
# What a grammar registers

A grammar that is made by steps has what was registered last. Its blocks are those whose slot no
later step takes, in the order of the steps, and a kind opens the first of them that it can open.
For every kind, every name of a group and the bound on open blocks the last step about it counts.
`registers_ofSteps` says this for any steps in any order.
-/

namespace TokenTree

namespace Block

/-- What a block is registered under: its name or, without one, its pair of delimiters. -/
inductive Slot where
  | named (name : Kind)
  | delimited (opens closes : Kind)
deriving DecidableEq

/-- The slot that the block takes. -/
def slot (block : Block) : Slot :=
  match block.name with
  | some name => .named name
  | none => .delimited block.opens block.closes

/-- One block replaces the other exactly if they take the same slot. -/
theorem sameSlot_eq (left right : Block) :
    left.sameSlot right = decide (left.slot = right.slot) := by
  unfold sameSlot slot
  cases left.name <;> cases right.name <;> simp [Bool.decide_and]

end Block

namespace Grammar

/-! ## What the steps register -/

/-- The reaction that a step registers for a kind. -/
def Step.reactionTo? (kind : Kind) : Step → Option TokenReaction
  | .token trigger reaction => if trigger = kind then some reaction else none
  | _ => none

/-- The group that a step defines under a name. -/
def Step.groupNamed? (name : Kind) : Step → Option Group
  | .group label members => if label = name then some ⟨label, members⟩ else none
  | _ => none

/-- The bound on open blocks that a step sets. -/
def Step.limit? : Step → Option Nat
  | .maxDepth limit => some limit
  | _ => none

/-- The blocks that the steps register, in order. -/
def registered (steps : List Step) : List Block := steps.filterMap Step.block?

/-- The grammar has what the steps registered last. -/
structure Registers (grammar : Grammar) (steps : List Step) : Prop where
  /-- The blocks are those in whose slot no later step registers one, in order. -/
  blocks : grammar.blocks =
    unreplaced (fun left right => left.slot = right.slot) (registered steps)
  /-- Every block has a slot of its own. -/
  slots : (grammar.blocks.map Block.slot).Nodup
  /-- A kind opens the block that was registered for it first among those whose slots were not taken
  again. -/
  opened : ∀ kind block, grammar.openedBy? kind = some block ↔
    ∃ later, block :: later <:+ registered steps ∧ block.opens = kind ∧
      block.slot ∉ later.map Block.slot ∧
      ∀ old since, old :: since <:+ registered steps → block :: later <:+ since →
        old.opens = kind → old.slot ∈ since.map Block.slot
  reactions : ∀ kind,
    grammar.reaction? kind = (steps.filterMap (Step.reactionTo? kind)).getLast?
  groups : ∀ name, grammar.group? name = (steps.filterMap (Step.groupNamed? name)).getLast?
  maxDepth : grammar.maxDepth = ((steps.filterMap Step.limit?).getLast?).getD defaultMaxDepth

/-! ## The last step about something -/

section LastSteps

variable {α β : Type} {said? : Step → Option α} {read : α → β}

/-- What every step says anew, or leaves alone, is as the last step about it says. -/
theorem view_ofSteps (view : Grammar → β)
    (happly : ∀ grammar step, view (apply grammar step) = (said? step).elim (view grammar) read)
    (steps : List Step) :
    view (ofSteps steps) = ((steps.filterMap said?).getLast?).elim (view empty) read := by
  induction steps using List.reverseRecOn with
  | nil => rfl
  | append_singleton steps step ih =>
      have hlast : ofSteps (steps ++ [step]) = (ofSteps steps).apply step := by
        rw [ofSteps, extend, List.foldl_append]
        rfl
      rw [hlast, happly, List.filterMap_append, ih]
      cases hsaid : said? step with
      | none => simp [hsaid]
      | some said => simp [hsaid]

end LastSteps

/-- A step replaces the reaction to the kind it is about. -/
theorem reaction?_apply (kind : Kind) (grammar : Grammar) (step : Step) :
    (grammar.apply step).reaction? kind =
      (step.reactionTo? kind).elim (grammar.reaction? kind) some := by
  cases step with
  | token trigger reaction =>
      show List.lookup kind ((trigger, reaction) :: grammar.reactions) = _
      rw [List.lookup_cons, Step.reactionTo?]
      by_cases hkind : trigger = kind
      · subst hkind
        simp
      · rw [if_neg hkind, beq_false_of_ne (Ne.symm hkind)]
        rfl
  | block | blockWith | namedBlock | namedBlockWith | group | maxDepth => rfl

/-- A step replaces the group of the name it is about. -/
theorem group?_apply (name : Kind) (grammar : Grammar) (step : Step) :
    (grammar.apply step).group? name = (step.groupNamed? name).elim (grammar.group? name) some := by
  cases step with
  | group label members =>
      show List.find? _ (⟨label, members⟩ :: grammar.groups) = _
      rw [List.find?_cons, Step.groupNamed?]
      by_cases hname : label = name <;> simp [hname, group?]
  | block | blockWith | namedBlock | namedBlockWith | token | maxDepth => rfl

/-- A step replaces the bound on open blocks or leaves it alone. -/
theorem maxDepth_apply (grammar : Grammar) (step : Step) :
    (grammar.apply step).maxDepth = step.limit?.elim grammar.maxDepth id := by
  cases step <;> rfl

/-! ## Grammars of steps -/

/-- The blocks of a grammar are those whose slot is not taken again. -/
theorem blocks_eq_unreplaced (steps : List Step) :
    (ofSteps steps).blocks =
      unreplaced (fun left right => left.slot = right.slot) (registered steps) := by
  rw [blocks_ofSteps, registered]
  congr 1
  funext left right
  exact Block.sameSlot_eq left right

/-- However a grammar is made, every block has a slot of its own. -/
theorem nodup_slots (steps : List Step) : ((ofSteps steps).blocks.map Block.slot).Nodup := by
  rw [List.Nodup, List.pairwise_map]
  refine (slotted_ofSteps steps).imp fun {left right} hdistinct => ?_
  rwa [Block.sameSlot_eq, decide_eq_false_iff_not] at hdistinct

/-- A kind opens the first block for it that stays. -/
theorem openedBy?_ofSteps_eq_some_iff {steps : List Step} {kind : Kind} {block : Block} :
    (ofSteps steps).openedBy? kind = some block ↔
      ∃ later, block :: later <:+ registered steps ∧ block.opens = kind ∧
        block.slot ∉ later.map Block.slot ∧
        ∀ old since, old :: since <:+ registered steps → block :: later <:+ since →
          old.opens = kind → old.slot ∈ since.map Block.slot := by
  have htaken (old : Block) (since : List Block) :
      since.any (fun other => decide (old.slot = other.slot)) = true ↔
        old.slot ∈ since.map Block.slot := by
    simp only [List.any_eq_true, List.mem_map, decide_eq_true_eq, @eq_comm _ old.slot]
  rw [openedBy?, blocks_eq_unreplaced, find?_unreplaced_eq_some_iff]
  simp only [htaken, decide_eq_true_eq]

/-- A grammar that is made by steps has what they registered last. -/
theorem registers_ofSteps (steps : List Step) : (ofSteps steps).Registers steps where
  blocks := blocks_eq_unreplaced steps
  slots := nodup_slots steps
  opened _ _ := openedBy?_ofSteps_eq_some_iff
  reactions kind := by
    rw [view_ofSteps (reaction? · kind) (reaction?_apply kind) steps]
    cases (steps.filterMap (Step.reactionTo? kind)).getLast? <;> rfl
  groups name := by
    rw [view_ofSteps (group? · name) (group?_apply name) steps]
    cases (steps.filterMap (Step.groupNamed? name)).getLast? <;> rfl
  maxDepth := by
    rw [view_ofSteps maxDepth maxDepth_apply steps]
    cases (steps.filterMap Step.limit?).getLast? <;> rfl

end Grammar

end TokenTree
