import TokenTree.Proofs.Registration
import TokenTree.Proofs.Tokeniser.Rules

/-!
# What a tokeniser registers

The steps that define a tokeniser are refused for the first of them whose pattern is rejected, even
if a later step has a rule of that name. Otherwise the tokeniser has the rules of the steps whose
name no later rule takes, in the order of the steps, and every rule without a name; of unmatched
characters and of sharing a place it says what the last step about them says.
`ofSteps_iff_registers` says both, and that there is no other tokeniser like it.
-/

namespace TokenTree

/-! ## Rules that are made -/

namespace Rule

variable {name : Option Kind} {source : String} {reaction : RuleMatch → Emit}

/-- No rule is made where the pattern is rejected. The cause has the name of the rule or, without
one, the pattern. -/
theorem compile_of_rejected (hpattern : Pattern.compile? (anchored source) = none) :
    compile name source reaction = .error ⟨(name.map Kind.name).getD source⟩ := by
  rw [compile, hpattern]

/-- A rule is made where the pattern is accepted. -/
theorem exists_compile {pattern : Pattern}
    (hpattern : Pattern.compile? (anchored source) = some pattern) :
    ∃ rule, compile name source reaction = .ok rule :=
  ⟨⟨name, source, pattern, reaction⟩, by rw [compile, hpattern]⟩

/-- Rules that were made are the same where they were made of the same. -/
theorem eq_of_map_definition_eq {left right : List Rule} (hleft : ∀ rule ∈ left, rule.Compiled)
    (hright : ∀ rule ∈ right, rule.Compiled)
    (hsame : left.map definition = right.map definition) : left = right := by
  -- What a rule was made of makes it again.
  have hmake {rules : List Rule} (hrules : ∀ rule ∈ rules, rule.Compiled) :
      (rules.map definition).map (fun made => compile made.1 made.2.1 made.2.2) =
        rules.map Except.ok := by
    rw [List.map_map]
    exact List.map_congr_left hrules
  have hok (first second : Rule)
      (heq : (Except.ok first : Except InvalidPattern Rule) = .ok second) : first = second :=
    Except.ok.inj heq
  rw [← List.map_inj_right hok, ← hmake hleft, ← hmake hright, hsame]

end Rule

namespace Tokeniser

variable {tokeniser after : Tokeniser} {steps : List Step} {step : Step} {cause : InvalidPattern}

/-! ## Steps that are refused -/

/-- The cause for which a step is refused: the pattern of its rule is rejected. The cause has the
name of the rule or, without one, the pattern. -/
def Step.refusal? (step : Step) : Option InvalidPattern :=
  match step.rule? with
  | some (name, source, _) =>
      match Pattern.compile? (Rule.anchored source) with
      | some _ => none
      | none => some ⟨(name.map Kind.name).getD source⟩
  | none => none

/-- A step is refused for its rule, whatever the steps before it did. -/
theorem apply_of_refusal (hrefused : step.refusal? = some cause) :
    tokeniser.apply step = .error cause := by
  have hadd {name : Option Kind} {source : String} {reaction : RuleMatch → Emit}
      (hrule : step.rule? = some (name, source, reaction)) :
      tokeniser.addRule name source reaction = .error cause := by
    rw [Step.refusal?, hrule] at hrefused
    cases hpattern : Pattern.compile? (Rule.anchored source) with
    | some pattern => simp [hpattern] at hrefused
    | none =>
        obtain rfl : ⟨(name.map Kind.name).getD source⟩ = cause := by
          simpa [hpattern] using hrefused
        rw [addRule, Rule.compile_of_rejected hpattern, error_bind]
  cases step with
  | rule | anonymousRule | token | discard => exact hadd rfl
  | fallback | skipUnmatched | application => cases hrefused

/-- A step that is not refused is taken. -/
theorem exists_apply (haccepted : step.refusal? = none) :
    ∃ after, tokeniser.apply step = .ok after := by
  have hadd {name : Option Kind} {source : String} {reaction : RuleMatch → Emit}
      (hrule : step.rule? = some (name, source, reaction)) :
      ∃ after, tokeniser.addRule name source reaction = .ok after := by
    rw [Step.refusal?, hrule] at haccepted
    cases hpattern : Pattern.compile? (Rule.anchored source) with
    | some pattern =>
        obtain ⟨rule, hcompile⟩ : ∃ rule, Rule.compile name source reaction = .ok rule :=
          Rule.exists_compile hpattern
        rw [addRule, hcompile, ok_bind]
        exact ⟨_, rfl⟩
    | none => simp [hpattern] at haccepted
  cases step with
  | rule | anonymousRule | token | discard => exact hadd rfl
  | fallback | skipUnmatched | application => exact ⟨_, rfl⟩

/-- Steps are refused for the first one that is, and otherwise they are all taken. -/
theorem foldlM_apply_eq_error_iff (start : Tokeniser) :
    steps.foldlM apply start = .error cause ↔ steps.findSome? Step.refusal? = some cause := by
  induction steps generalizing start with
  | nil => exact iff_of_false (fun hsame => nomatch hsame) (fun hsame => nomatch hsame)
  | cons step rest ih =>
      rw [List.foldlM_cons]
      cases hrefusal : step.refusal? with
      | some first =>
          have hfirst : (step.refusal?).isSome := by rw [hrefusal]; rfl
          rw [apply_of_refusal hrefusal, error_bind, List.findSome?_cons_of_isSome hfirst, hrefusal,
            Except.error.injEq, Option.some.injEq]
      | none =>
          obtain ⟨after, hafter⟩ : ∃ after, start.apply step = .ok after := exists_apply hrefusal
          have hfirst : (step.refusal?).isNone := by rw [hrefusal]; rfl
          rw [hafter, ok_bind, ih, List.findSome?_cons_of_isNone hfirst]

/-- Steps make a tokeniser unless one of them is refused. -/
theorem exists_ofSteps (haccepted : ∀ step ∈ steps, step.refusal? = none) :
    ∃ tokeniser, ofSteps steps = .ok tokeniser := by
  cases hbuild : ofSteps steps with
  | ok tokeniser => exact ⟨tokeniser, rfl⟩
  | error cause =>
      rw [ofSteps, foldlM_apply_eq_error_iff, List.findSome?_eq_none_iff.2 haccepted] at hbuild
      cases hbuild

/-! ## Tokenisers of steps -/

/-- The tokeniser has what the steps registered last, made of the patterns that they gave. -/
structure Registers (tokeniser : Tokeniser) (steps : List Step) : Prop
    extends tokeniser.DefinedBy steps where
  compiled : ∀ rule ∈ tokeniser.rules, rule.Compiled
  /-- Every rule without a name is kept. -/
  nameless : (tokeniser.rules.filter fun rule => rule.name.isNone).map Rule.definition =
    (steps.filterMap Step.rule?).filter fun made => made.1.isNone
  /-- No two rules have one name. -/
  names : (tokeniser.rules.filterMap Rule.name).Nodup

/-- Rules without a name are not replaced, so all of them are kept. -/
theorem DefinedBy.nameless (hdefined : tokeniser.DefinedBy steps) :
    (tokeniser.rules.filter fun rule => rule.name.isNone).map Rule.definition =
      (steps.filterMap Step.rule?).filter fun made => made.1.isNone := by
  have hkept (entry other : Option Kind × String × (RuleMatch → Emit))
      (hentry : entry.1.isNone = true) : sameName entry other = false := by
    rw [sameName, Option.isNone_iff_eq_none.1 hentry]
    rfl
  rw [← filter_unreplaced hkept, ← hdefined.rules, List.filter_map]
  rfl

/-- Rules of one name replace one another, so there is one of a name at most. -/
theorem DefinedBy.names (hdefined : tokeniser.DefinedBy steps) :
    (tokeniser.rules.filterMap Rule.name).Nodup := by
  have hapart := pairwise_unreplaced sameName (steps.filterMap Step.rule?)
  rw [← hdefined.rules, List.pairwise_map] at hapart
  rw [List.Nodup, List.pairwise_filterMap]
  refine hapart.imp fun {left right} hdistinct => ?_
  rintro name hleft other hright rfl
  simp [sameName, Rule.definition, hleft, hright] at hdistinct

/-- What the steps make has what they registered last. -/
theorem registers_of_ofSteps (hbuild : ofSteps steps = .ok tokeniser) :
    tokeniser.Registers steps :=
  have hdefined := defines_ofSteps hbuild
  { hdefined with
    compiled := compiled_ofSteps hbuild
    nameless := hdefined.nameless
    names := hdefined.names }

/-- Only one tokeniser has what the steps registered last. -/
theorem Registers.unique {other : Tokeniser} (hleft : tokeniser.Registers steps)
    (hright : other.Registers steps) : tokeniser = other := by
  have hrules : tokeniser.rules = other.rules :=
    Rule.eq_of_map_definition_eq hleft.compiled hright.compiled
      (hleft.rules.trans hright.rules.symm)
  have hunmatched := hleft.unmatched.trans hright.unmatched.symm
  have happlication := hleft.application.trans hright.application.symm
  cases tokeniser
  cases other
  congr

/-- Steps are refused exactly for the first of them that is. They make a tokeniser exactly if none
is refused, which is the one that has what they registered last. -/
theorem ofSteps_iff_registers (steps : List Step) :
    (∀ cause, ofSteps steps = .error cause ↔
      ∃ earlier step later, steps = earlier ++ step :: later ∧ step.refusal? = some cause ∧
        ∀ before ∈ earlier, before.refusal? = none) ∧
    ∀ tokeniser, ofSteps steps = .ok tokeniser ↔
      (∀ step ∈ steps, step.refusal? = none) ∧ tokeniser.Registers steps := by
  refine ⟨fun cause => ?_, fun tokeniser => ⟨fun hbuild => ⟨?_, registers_of_ofSteps hbuild⟩, ?_⟩⟩
  · rw [ofSteps, foldlM_apply_eq_error_iff, List.findSome?_eq_some_iff]
  · rw [← List.findSome?_eq_none_iff, Option.eq_none_iff_forall_ne_some]
    intro cause hfirst
    rw [ofSteps, (foldlM_apply_eq_error_iff empty).2 hfirst] at hbuild
    cases hbuild
  · rintro ⟨haccepted, hregisters⟩
    obtain ⟨made, hmade⟩ := exists_ofSteps haccepted
    rw [hmade, (registers_of_ofSteps hmade).unique hregisters]

end Tokeniser

end TokenTree
