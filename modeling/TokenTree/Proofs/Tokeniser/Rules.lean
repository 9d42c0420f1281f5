import TokenTree.Proofs.Pattern.Anchored
import TokenTree.Tokeniser

/-!
# Matches of rules

What every match of a rule has in common: it is not empty, no longer than the text it was looked for
in, and it knows the offset it was looked for at. It need not stand at the start of that text. It
does for a rule whose pattern stays inside the group that is wrapped around it.
-/

namespace TokenTree

open Text (byteLength byteLength_pos byteLength_append)

namespace Rule

/-- Whatever the rule matches stands where the text begins. -/
def MatchesPrefix (rule : Rule) : Prop :=
  ∀ text offset found, rule.matchIn? text offset = some found → found.text.toList <+: text

/-- A parenthesis of the pattern's text closes the group that is wrapped around it, so that a bar of
the text stands outside of all groups. -/
def escapes (source : String) : Bool :=
  (Pattern.Term.read? (anchored source)).any Pattern.Term.isAlternation

variable {rule : Rule} {text : List Char} {offset : Nat} {found : RuleMatch}

/-- A match is what the pattern finds, provided it is not empty. -/
theorem exists_search?_of_matchIn? (hmatch : rule.matchIn? text offset = some found) :
    ∃ inner : Pattern.Found text, rule.pattern.search? text = some inner ∧ inner.matched ≠ [] ∧
      found.text.toList = inner.matched ∧ found.offset = offset := by
  rw [matchIn?] at hmatch
  split at hmatch
  · rename_i inner hsearch
    split at hmatch
    · cases hmatch
    · rename_i hempty
      cases hmatch
      exact ⟨inner, hsearch, by simpa using hempty, String.toList_ofList, rfl⟩
  · cases hmatch

/-- A match knows where it was looked for. -/
theorem offset_of_matchIn? (hmatch : rule.matchIn? text offset = some found) :
    found.offset = offset := by
  obtain ⟨inner, -, -, -, hoffset⟩ := exists_search?_of_matchIn? hmatch
  exact hoffset

/-- A match is not empty. -/
theorem bytes_pos_of_matchIn? (hmatch : rule.matchIn? text offset = some found) :
    0 < found.bytes := by
  obtain ⟨inner, -, hne, htext, -⟩ := exists_search?_of_matchIn? hmatch
  rw [RuleMatch.bytes, htext]
  exact byteLength_pos hne

/-- A match is no longer than the text. -/
theorem bytes_le_of_matchIn? (hmatch : rule.matchIn? text offset = some found) :
    found.bytes ≤ byteLength text := by
  obtain ⟨inner, -, -, htext, -⟩ := exists_search?_of_matchIn? hmatch
  have hsplit := congrArg byteLength inner.split
  rw [byteLength_append, byteLength_append] at hsplit
  rw [RuleMatch.bytes, htext]
  omega

/-- What a rule matches does not depend on the offset, which it only takes note of. -/
theorem matchIn?_at (hmatch : rule.matchIn? text offset = some found) (other : Nat) :
    rule.matchIn? text other = some { found with offset := other } := by
  rw [matchIn?] at hmatch ⊢
  split at hmatch
  · split at hmatch
    · cases hmatch
    · rename_i hempty
      cases hmatch
      rw [if_neg hempty]
  · cases hmatch

/-- A rule whose pattern stays inside the group around it matches at the start only. -/
theorem matchesPrefix_of_compile {name : Option Kind} {source : String}
    {reaction : RuleMatch → Emit} (hcompile : compile name source reaction = .ok rule)
    (hcontained : escapes source = false) : rule.MatchesPrefix := by
  intro text offset found hmatch
  obtain ⟨inner, hsearch, -, htext, -⟩ := exists_search?_of_matchIn? hmatch
  rw [compile] at hcompile
  split at hcompile
  · rename_i pattern hpattern
    cases hcompile
    have hbefore := Pattern.before_eq_nil_of_search? hpattern hcontained hsearch
    have hsplit := inner.split
    rw [hbefore, List.nil_append] at hsplit
    rw [htext]
    exact ⟨inner.after, hsplit⟩
  · cases hcompile

/-- The rule was made of its own name, text and reaction. -/
def Compiled (rule : Rule) : Prop :=
  compile rule.name rule.source rule.reaction = .ok rule

/-- A rule that was made is made of its own name, text and reaction. -/
theorem compiled_of_compile {name : Option Kind} {source : String} {reaction : RuleMatch → Emit}
    (hcompile : compile name source reaction = .ok rule) : rule.Compiled := by
  have hcopy := hcompile
  rw [compile] at hcopy
  split at hcopy
  · cases hcopy
    exact hcompile
  · cases hcopy

end Rule

namespace Tokeniser

/-- A step of the definition keeps rules or adds one that it makes. -/
theorem compiled_apply {tokeniser after : Tokeniser} {step : Step}
    (hrules : ∀ rule ∈ tokeniser.rules, rule.Compiled)
    (hstep : tokeniser.apply step = .ok after) : ∀ rule ∈ after.rules, rule.Compiled := by
  have hadd {name : Option Kind} {source : String} {reaction : RuleMatch → Emit}
      (hstep : tokeniser.addRule name source reaction = .ok after) :
      ∀ rule ∈ after.rules, rule.Compiled := by
    rw [addRule, bind_eq_ok_iff] at hstep
    obtain ⟨added, hadded, hafter⟩ := hstep
    cases hafter
    intro rule hmem
    obtain hkept | hnew := List.mem_append.1 hmem
    · exact hrules rule (List.mem_filter.1 hkept).1
    · obtain rfl := List.mem_singleton.1 hnew
      exact Rule.compiled_of_compile hadded
  cases step with
  | rule | anonymousRule | token | discard => exact hadd hstep
  | fallback | skipUnmatched | application =>
      cases hstep
      exact hrules

/-- Every rule of a tokeniser was made of its own name, text and reaction. -/
theorem compiled_ofSteps {steps : List Step} {tokeniser : Tokeniser}
    (hbuild : ofSteps steps = .ok tokeniser) : ∀ rule ∈ tokeniser.rules, rule.Compiled := by
  have hextend (steps : List Step) (start : Tokeniser)
      (hstart : ∀ rule ∈ start.rules, rule.Compiled)
      (hsteps : steps.foldlM apply start = .ok tokeniser) :
      ∀ rule ∈ tokeniser.rules, rule.Compiled := by
    induction steps generalizing start with
    | nil =>
        cases hsteps
        exact hstart
    | cons step rest ih =>
        rw [List.foldlM_cons, bind_eq_ok_iff] at hsteps
        obtain ⟨middle, hmiddle, hrest⟩ := hsteps
        exact ih middle (compiled_apply hstart hmiddle) hrest
  exact hextend steps empty (fun _ hmem => nomatch hmem) hbuild

/-- Patterns that stay inside the groups around them make rules that match at the start only. -/
theorem matchesPrefix_ofSteps {steps : List Step} {tokeniser : Tokeniser}
    (hbuild : ofSteps steps = .ok tokeniser)
    (hcontained : ∀ rule ∈ tokeniser.rules, Rule.escapes rule.source = false) :
    ∀ rule ∈ tokeniser.rules, rule.MatchesPrefix := by
  intro rule hrule
  exact Rule.matchesPrefix_of_compile (compiled_ofSteps hbuild rule hrule) (hcontained rule hrule)

end Tokeniser

end TokenTree
