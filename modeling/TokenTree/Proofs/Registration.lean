import Mathlib.Data.List.Induction
import TokenTree.Grammar
import TokenTree.Tokeniser

/-!
# What registering leaves

Tokenisers and grammars grow by steps, and what is registered again takes the place of what was
there. In the end a tokeniser has the rules, and a grammar the blocks, that no later step replaces,
in the order of the steps that registered them (`defines_ofSteps`, `blocks_ofSteps`).
-/

namespace TokenTree

/-! ## Entries that stay -/

section Entries

variable {α β : Type} {same : α → α → Bool} {entries : List α}

/-- The entries that no later entry replaces, in order. -/
def unreplaced (same : α → α → Bool) : List α → List α
  | [] => []
  | entry :: later =>
      if later.any (same entry) then unreplaced same later else entry :: unreplaced same later

/-- A last entry stays, and those before it stay unless it replaces them. -/
theorem unreplaced_concat (same : α → α → Bool) (entries : List α) (last : α) :
    unreplaced same (entries ++ [last]) =
      (unreplaced same entries).filter (fun entry => !same entry last) ++ [last] := by
  induction entries with
  | nil => rfl
  | cons entry later ih =>
      rw [List.cons_append, unreplaced, unreplaced, ih, List.any_append, List.any_cons,
        List.any_nil, Bool.or_false]
      cases hlater : later.any (same entry) with
      | true => rfl
      | false => cases hlast : same entry last <;> simp [hlast]

/-- Entries that are made of others are replaced where those are. -/
theorem unreplaced_map (same : β → β → Bool) (f : α → β) (entries : List α) :
    unreplaced same (entries.map f) =
      (unreplaced (fun left right => same (f left) (f right)) entries).map f := by
  induction entries with
  | nil => rfl
  | cons entry later ih =>
      rw [List.map_cons, unreplaced, unreplaced, ih, List.any_map]
      show (if later.any (fun right => same (f entry) (f right)) then _ else _) = _
      split <;> rfl

/-- The entries that stay keep their order. -/
theorem unreplaced_sublist (same : α → α → Bool) (entries : List α) :
    (unreplaced same entries).Sublist entries := by
  induction entries with
  | nil => exact .slnil
  | cons entry later ih =>
      rw [unreplaced]
      split
      · exact ih.cons entry
      · exact ih.cons_cons entry

/-- No entry that stays replaces one before it that stays. -/
theorem pairwise_unreplaced (same : α → α → Bool) (entries : List α) :
    (unreplaced same entries).Pairwise fun left right => same left right = false := by
  induction entries with
  | nil => exact .nil
  | cons entry later ih =>
      rw [unreplaced]
      split
      · exact ih
      · rename_i hlater
        refine List.pairwise_cons.2 ⟨fun right hright => ?_, ih⟩
        rw [List.any_eq_true, not_exists] at hlater
        have hmem := (unreplaced_sublist same later).subset hright
        exact Bool.eq_false_iff.2 fun hsame => hlater right ⟨hmem, hsame⟩

/-- Entries that no other entry replaces all stay. -/
theorem filter_unreplaced {test : α → Bool}
    (hkept : ∀ entry other, test entry = true → same entry other = false) :
    (unreplaced same entries).filter test = entries.filter test := by
  induction entries with
  | nil => rfl
  | cons entry later ih =>
      rw [unreplaced]
      split
      · rename_i hlater
        obtain ⟨other, -, hsame⟩ := List.any_eq_true.1 hlater
        have htest : ¬ test entry = true := fun htest => by
          rw [hkept entry other htest] at hsame
          cases hsame
        rw [ih, List.filter_cons_of_neg htest]
      · rw [List.filter_cons, List.filter_cons, ih]

/-- The first entry that stays and passes a test: no later entry replaces it, and one later on
replaces each entry before it that passes. -/
theorem find?_unreplaced_eq_some_iff {test : α → Bool} {entry : α} :
    (unreplaced same entries).find? test = some entry ↔
      ∃ later, entry :: later <:+ entries ∧ test entry = true ∧
        ¬ later.any (same entry) = true ∧
        ∀ old since, old :: since <:+ entries → entry :: later <:+ since → test old = true →
          since.any (same old) = true := by
  induction entries with
  | nil => simp [unreplaced]
  | cons first rest ih =>
      -- What is said of the rest is said of the whole, unless the first entry stays and passes.
      have hskip (hfirst : test first = true → rest.any (same first) = true) :
          (∃ later, entry :: later <:+ rest ∧ test entry = true ∧
            ¬ later.any (same entry) = true ∧
            ∀ old since, old :: since <:+ rest → entry :: later <:+ since → test old = true →
              since.any (same old) = true) ↔
          ∃ later, entry :: later <:+ first :: rest ∧ test entry = true ∧
            ¬ later.any (same entry) = true ∧
            ∀ old since, old :: since <:+ first :: rest → entry :: later <:+ since →
              test old = true → since.any (same old) = true := by
        constructor
        · rintro ⟨later, hmem, htest, hstays, hearlier⟩
          refine ⟨later, hmem.trans (List.suffix_cons first rest), htest, hstays, ?_⟩
          intro old since hold hsince hpasses
          obtain heq | hold := List.suffix_cons_iff.1 hold
          · cases heq
            exact hfirst hpasses
          · exact hearlier old since hold hsince hpasses
        · rintro ⟨later, hmem, htest, hstays, hearlier⟩
          obtain heq | hmem := List.suffix_cons_iff.1 hmem
          · cases heq
            exact absurd (hfirst htest) hstays
          · refine ⟨later, hmem, htest, hstays, fun old since hold => ?_⟩
            exact hearlier old since (hold.trans (List.suffix_cons first rest))
      rw [unreplaced]
      by_cases hreplaced : rest.any (same first) = true
      · rw [if_pos hreplaced, ih]
        exact hskip fun _ => hreplaced
      · rw [if_neg hreplaced, List.find?_cons]
        cases hpasses : test first with
        | false =>
            rw [← hskip fun htest => ?_]
            · exact ih
            · rw [hpasses] at htest
              cases htest
        | true =>
            constructor
            · intro heq
              cases heq
              refine ⟨rest, List.suffix_refl _, hpasses, hreplaced, fun old since hold hsince => ?_⟩
              -- Nothing stands before the first entry.
              have hwhole := hold.length_le
              have hlonger := hsince.length_le
              simp only [List.length_cons] at hwhole hlonger
              omega
            · rintro ⟨later, hmem, -, -, hearlier⟩
              obtain heq | hmem := List.suffix_cons_iff.1 hmem
              · cases heq
                rfl
              · exact absurd (hearlier first rest (List.suffix_refl _) hmem hpasses) hreplaced

/-- All entries stay exactly if none is replaced. -/
theorem unreplaced_eq_self_iff :
    unreplaced same entries = entries ↔
      entries.Pairwise fun left right => same left right = false := by
  induction entries with
  | nil => exact ⟨fun _ => .nil, fun _ => rfl⟩
  | cons entry later ih =>
      have hkept : (∀ right ∈ later, same entry right = false) ↔
          later.any (same entry) = false := by
        simp
      rw [unreplaced, List.pairwise_cons, hkept, ← ih]
      cases later.any (same entry) with
      | true =>
          -- One entry less cannot be all of them.
          have hlength := (unreplaced_sublist same later).length_le
          refine ⟨fun hall => ?_, fun h => nomatch h.1⟩
          rw [if_pos rfl] at hall
          rw [hall, List.length_cons] at hlength
          omega
      | false => simp

/-- A list of all that stays is a list of all entries exactly if none is replaced. -/
theorem map_unreplaced_eq_map_iff (f : α → β) :
    (unreplaced same entries).map f = entries.map f ↔
      entries.Pairwise fun left right => same left right = false := by
  rw [← unreplaced_eq_self_iff]
  constructor
  · intro hmap
    have hlength := congrArg List.length hmap
    rw [List.length_map, List.length_map] at hlength
    exact (unreplaced_sublist same entries).eq_of_length hlength
  · intro hall
    rw [hall]

end Entries

/-! ## Rules -/

/-- What a rule was made of: its name, the text of its pattern and its reaction. -/
def Rule.definition (rule : Rule) : Option Kind × String × (RuleMatch → Emit) :=
  (rule.name, rule.source, rule.reaction)

namespace Tokeniser

/-- The rule that a step adds has the name of another one, and replaces it. -/
def sameName (left right : Option Kind × String × (RuleMatch → Emit)) : Bool :=
  left.1.isSome && left.1 == right.1

/-- What a step says becomes of characters at which no rule matches. -/
def Step.unmatched? : Step → Option Unmatched
  | .fallback name handler => some (.emit name handler)
  | .skipUnmatched => some .skip
  | _ => none

/-- How a step says that the rules share a place. -/
def Step.application? : Step → Option Application
  | .application sharing => some sharing
  | _ => none

/-- The tokeniser has the rules of the steps that no later step replaces, in order, and whatever the
last step about it says of unmatched characters and of sharing a place. -/
structure DefinedBy (tokeniser : Tokeniser) (steps : List Step) : Prop where
  rules : tokeniser.rules.map Rule.definition = unreplaced sameName (steps.filterMap Step.rule?)
  unmatched : tokeniser.unmatched = ((steps.filterMap Step.unmatched?).getLast?).getD .skip
  application :
    tokeniser.application = ((steps.filterMap Step.application?).getLast?).getD .overlapping

variable {tokeniser after : Tokeniser} {steps : List Step}

/-- A rule that is added comes last, and the one of its name goes. -/
theorem map_definition_addRule {name : Option Kind} {source : String} {reaction : RuleMatch → Emit}
    (hadd : tokeniser.addRule name source reaction = .ok after) :
    after.rules.map Rule.definition =
        (tokeniser.rules.map Rule.definition).filter (!sameName · (name, source, reaction)) ++
          [(name, source, reaction)] ∧
      after.unmatched = tokeniser.unmatched ∧ after.application = tokeniser.application := by
  obtain ⟨rule, hcompile, hafter⟩ := bind_eq_ok_iff.1 hadd
  cases hafter
  refine ⟨?_, rfl, rfl⟩
  have hrule : rule.definition = (name, source, reaction) := by
    rw [Rule.compile] at hcompile
    split at hcompile
    · cases hcompile
      rfl
    · cases hcompile
  have hkept (old : Rule) : (old.name.isNone || old.name != name) =
      !sameName old.definition (name, source, reaction) := by
    rw [sameName, Rule.definition, Bool.not_and, Option.not_isSome]
    rfl
  rw [List.map_append, List.map_singleton, hrule, List.filter_map]
  simp only [hkept]
  rfl

/-- Each step adds to what the steps before it define. -/
theorem DefinedBy.apply (hdefined : tokeniser.DefinedBy steps) {step : Step}
    (hstep : tokeniser.apply step = .ok after) : after.DefinedBy (steps ++ [step]) := by
  have hadd {name : Option Kind} {source : String} {reaction : RuleMatch → Emit}
      (hrule : step.rule? = some (name, source, reaction)) (hunmatched : step.unmatched? = none)
      (happlication : step.application? = none)
      (hstep : tokeniser.addRule name source reaction = .ok after) :
      after.DefinedBy (steps ++ [step]) := by
    obtain ⟨hrules, hsame, hshare⟩ := map_definition_addRule hstep
    refine ⟨?_, ?_, ?_⟩
    · rw [hrules, hdefined.rules, List.filterMap_append, List.filterMap_cons_some hrule,
        List.filterMap_nil, unreplaced_concat]
    · simp [hsame, hdefined.unmatched, hunmatched]
    · simp [hshare, hdefined.application, happlication]
  obtain ⟨hrules, hunmatched, happlication⟩ := hdefined
  cases step with
  | rule | anonymousRule | token | discard => exact hadd rfl rfl rfl hstep
  | fallback | skipUnmatched | application =>
      cases hstep
      refine ⟨?_, ?_, ?_⟩
      · rw [List.filterMap_append, List.filterMap_cons_none rfl, List.filterMap_nil,
          List.append_nil]
        exact hrules
      · simp [Step.unmatched?, hunmatched]
      · simp [Step.application?, happlication]

/-- A tokeniser is what its steps define. -/
theorem defines_ofSteps (hbuild : ofSteps steps = .ok tokeniser) : tokeniser.DefinedBy steps := by
  induction steps using List.reverseRecOn generalizing tokeniser with
  | nil =>
      cases hbuild
      exact ⟨rfl, rfl, rfl⟩
  | append_singleton steps step ih =>
      rw [ofSteps, List.foldlM_append, bind_eq_ok_iff] at hbuild
      obtain ⟨before, hbefore, hstep⟩ := hbuild
      rw [List.foldlM_cons, bind_eq_ok_iff] at hstep
      obtain ⟨made, hmade, hlast⟩ := hstep
      cases hlast
      exact (ih hbefore).apply hmade

/-- Each rule of the tokeniser was made by one of the steps. -/
theorem DefinedBy.exists_step (hdefined : tokeniser.DefinedBy steps) {rule : Rule}
    (hrule : rule ∈ tokeniser.rules) : ∃ step ∈ steps, step.rule? = some rule.definition := by
  have hmem : rule.definition ∈ tokeniser.rules.map Rule.definition := List.mem_map_of_mem hrule
  rw [hdefined.rules] at hmem
  exact List.mem_filterMap.1 ((unreplaced_sublist _ _).subset hmem)

end Tokeniser

/-! ## Blocks -/

namespace Grammar

/-- The block that a step registers. -/
def Step.block? : Step → Option Block
  | .block opens closes => some ⟨none, opens, closes, Block.toList⟩
  | .blockWith opens closes reaction => some ⟨none, opens, closes, reaction⟩
  | .namedBlock name opens closes => some ⟨some name, opens, closes, Block.toTagged name⟩
  | .namedBlockWith name opens closes reaction => some ⟨some name, opens, closes, reaction⟩
  | _ => none

/-- A step registers its block, if it has one. -/
theorem blocks_apply (grammar : Grammar) (step : Step) :
    (grammar.apply step).blocks =
      (step.block?.elim grammar grammar.addBlock).blocks := by
  cases step <;> rfl

/-- A grammar has the blocks that no later step replaces, in order. -/
theorem blocks_ofSteps (steps : List Step) :
    (ofSteps steps).blocks = unreplaced Block.sameSlot (steps.filterMap Step.block?) := by
  induction steps using List.reverseRecOn with
  | nil => rfl
  | append_singleton steps step ih =>
      have hlast : (ofSteps (steps ++ [step])).blocks = ((ofSteps steps).apply step).blocks := by
        rw [ofSteps, extend, List.foldl_append]
        rfl
      rw [hlast, blocks_apply, List.filterMap_append]
      cases hblock : step.block? with
      | none => simpa [hblock] using ih
      | some block =>
          rw [List.filterMap_cons_some hblock, List.filterMap_nil, unreplaced_concat, ← ih]
          rfl

end Grammar

end TokenTree
