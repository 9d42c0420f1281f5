import Mathlib.Data.List.Forall2
import TokenTree.Proofs.Tokeniser.InPlace
import TokenTree.Proofs.Tokeniser.Passes

/-!
# What occurs in a scan

All tokens of a scan come from two kinds of occurrences: a rule matches where it has its turn, or no
rule matches at a character. `Completes` lists the occurrences of a scan in order, from a state to
the end of the input. The tokens of a stream are those of its occurrences, one after the other
(`Completes.result_tokenise`), and a scan whose rules all have names always comes to the end of its
input, provided its matches stand where they were looked for (`exists_completes_of_named`).
-/

namespace TokenTree

open Text (byteLength dropBytes?)

/-- What may give tokens in a scan. -/
inductive Occurrence where
  /-- The rule matches where it has its turn. -/
  | matched (rule : Rule) (found : RuleMatch)
  /-- No rule matches at the character. -/
  | unmatched (c : Char) (offset : Nat)

/-- The text that the scan moves over when the rules follow one another. -/
def Occurrence.text : Occurrence → List Char
  | .matched _ found => found.text.toList
  | .unmatched c _ => [c]

namespace Tokeniser

/-- What occurs in a state of the scan, if anything does: the next rule matches, or else the rules
of a pass have all had their turn without a match. -/
def occurrence? (tokeniser : Tokeniser) (input : String) (scan : Scan) : Option Occurrence :=
  if byteLength input.toList ≤ scan.offset then none
  else
    match scan.pending with
    | rule :: _ =>
        if byteLength input.toList ≤ tokeniser.place scan then none
        else
          match rule.matchAt input (tokeniser.place scan) with
          | .ok (some found) => some (.matched rule found)
          | _ => none
    | [] =>
        if scan.reached = scan.offset then
          match dropBytes? input.toList scan.offset with
          | some (c :: _) => some (.unmatched c scan.offset)
          | _ => none
        else none

/-- The tokens of an occurrence: those of the rule's reaction, or what becomes of the character. -/
def tokensOf (tokeniser : Tokeniser) : Occurrence → Except Error (List Token)
  | .matched rule found => (rule.reaction found).toTokens rule.name found.offset
  | .unmatched c offset =>
      match tokeniser.unmatched with
      | .skip => .ok []
      | .emit name handler => (handler c).toTokens (some name) offset

/-- The scan goes on from the state to the end of the input, and this is what occurs on the way. -/
inductive Completes (tokeniser : Tokeniser) (input : String) : Scan → List Occurrence → Prop where
  | done {scan : Scan} (hstep : tokeniser.step input scan = .ok none) :
      Completes tokeniser input scan []
  | next {scan after : Scan} {occurrences : List Occurrence}
      (hstep : tokeniser.step input scan = .ok (some after))
      (hrest : Completes tokeniser input after occurrences) :
      Completes tokeniser input scan ((tokeniser.occurrence? input scan).toList ++ occurrences)

variable {tokeniser : Tokeniser} {input : String} {scan after : Scan}
  {occurrences : List Occurrence} {occurrence : Occurrence}

/-! ## Steps -/

/-- At the end of the input nothing occurs. -/
theorem occurrence?_of_done (hend : byteLength input.toList ≤ scan.offset) :
    tokeniser.occurrence? input scan = none := if_pos hend

/-- A rule that matches where it has its turn occurs. -/
theorem occurrence?_of_hit {rule : Rule} {rules : List Rule} {text : List Char} {found : RuleMatch}
    (hpending : scan.pending = rule :: rules) (hoffset : scan.offset < byteLength input.toList)
    (hplace : tokeniser.place scan < byteLength input.toList)
    (htext : dropBytes? input.toList (tokeniser.place scan) = some text)
    (hmatch : rule.matchIn? text (tokeniser.place scan) = some found) :
    tokeniser.occurrence? input scan = some (.matched rule found) := by
  rw [occurrence?, if_neg (by omega), hpending]
  simp only [if_neg (Nat.not_le.2 hplace), Rule.matchAt, htext, hmatch]

/-- A rule that does not match does not occur. -/
theorem occurrence?_of_miss {rule : Rule} {rules : List Rule} {text : List Char}
    (hpending : scan.pending = rule :: rules) (hoffset : scan.offset < byteLength input.toList)
    (hplace : tokeniser.place scan < byteLength input.toList)
    (htext : dropBytes? input.toList (tokeniser.place scan) = some text)
    (hmatch : rule.matchIn? text (tokeniser.place scan) = none) :
    tokeniser.occurrence? input scan = none := by
  rw [occurrence?, if_neg (by omega), hpending]
  simp only [if_neg (Nat.not_le.2 hplace), Rule.matchAt, htext, hmatch]

/-- A rule that has no text left does not occur. -/
theorem occurrence?_of_exhaust {rule : Rule} {rules : List Rule}
    (hpending : scan.pending = rule :: rules) (hoffset : scan.offset < byteLength input.toList)
    (hplace : byteLength input.toList ≤ tokeniser.place scan) :
    tokeniser.occurrence? input scan = none := by
  rw [occurrence?, if_neg (by omega), hpending]
  exact if_pos hplace

/-- Behind a pass with a match nothing more occurs. -/
theorem occurrence?_of_next (hpending : scan.pending = [])
    (hoffset : scan.offset < byteLength input.toList) (hreached : scan.reached ≠ scan.offset) :
    tokeniser.occurrence? input scan = none := by
  rw [occurrence?, if_neg (by omega), hpending]
  exact if_neg hreached

/-- Behind a pass without a match its first character occurs. -/
theorem occurrence?_of_passOver {c : Char} {rest : List Char} (hpending : scan.pending = [])
    (hoffset : scan.offset < byteLength input.toList) (hreached : scan.reached = scan.offset)
    (htext : dropBytes? input.toList scan.offset = some (c :: rest)) :
    tokeniser.occurrence? input scan = some (.unmatched c scan.offset) := by
  rw [occurrence?, if_neg (by omega), hpending]
  simp only [if_pos hreached, htext]

/-- The tokens of a character that is passed over are those of its occurrence. -/
theorem result_passOver (tokeniser : Tokeniser) (c : Char) (offset : Nat) :
    (tokeniser.passOver c offset).result = tokeniser.tokensOf (.unmatched c offset) := by
  rw [passOver, tokensOf]
  cases tokeniser.unmatched <;> rfl

/-- A rule that occurs is the one whose turn it is. -/
theorem mem_pending_of_occurrence? {rule : Rule} {found : RuleMatch}
    (hoccurs : tokeniser.occurrence? input scan = some (.matched rule found)) :
    rule ∈ scan.pending := by
  rw [occurrence?] at hoccurs
  split at hoccurs
  · cases hoccurs
  split at hoccurs
  · next first rules hpending =>
      split at hoccurs
      · cases hoccurs
      split at hoccurs
      · cases hoccurs
        exact hpending ▸ List.mem_cons_self
      · cases hoccurs
  · split at hoccurs
    · split at hoccurs <;> cases hoccurs
    · cases hoccurs

/-- A step adds the tokens of what occurs in it. -/
theorem exists_tokens_of_step (hstep : tokeniser.step input scan = .ok (some after)) :
    ∃ made, List.Forall₂ (fun occurrence tokens => tokeniser.tokensOf occurrence = .ok tokens)
      (tokeniser.occurrence? input scan).toList made ∧
      after.tokens = scan.tokens ++ made.flatten := by
  have hmoves : tokeniser.Moves input scan _ := moves_step
  rw [hstep] at hmoves
  cases hmoves with
  | exhaust hpending hoffset hplace =>
      rw [occurrence?_of_exhaust hpending hoffset hplace]
      exact ⟨[], .nil, (List.append_nil _).symm⟩
  | miss hpending hoffset hplace htext hmatch =>
      rw [occurrence?_of_miss hpending hoffset hplace htext hmatch]
      exact ⟨[], .nil, (List.append_nil _).symm⟩
  | @hit rule rules text found tokens hpending hoffset hplace htext hmatch hemit =>
      rw [occurrence?_of_hit hpending hoffset hplace htext hmatch]
      refine ⟨[tokens], .cons hemit .nil, ?_⟩
      rw [List.flatten_singleton]
  | next hpending hoffset hreached =>
      rw [occurrence?_of_next hpending hoffset hreached]
      exact ⟨[], .nil, (List.append_nil _).symm⟩
  | @passOver c rest tokens hpending hoffset hreached htext hemit =>
      rw [result_passOver] at hemit
      rw [occurrence?_of_passOver hpending hoffset hreached htext]
      refine ⟨[tokens], .cons hemit .nil, ?_⟩
      rw [List.flatten_singleton]
      rfl

/-! ## Runs -/

/-- A scan that comes to the end has the tokens of what occurs in it. -/
theorem Completes.ends (hcompletes : tokeniser.Completes input scan occurrences) :
    ∃ made, List.Forall₂ (fun occurrence tokens => tokeniser.tokensOf occurrence = .ok tokens)
      occurrences made ∧ tokeniser.Ends input scan (.ok (scan.tokens ++ made.flatten)) := by
  induction hcompletes with
  | done hstep =>
      refine ⟨[], .nil, ?_⟩
      rw [List.flatten_nil, List.append_nil]
      exact .done hstep
  | next hstep _ ih =>
      obtain ⟨first, hfirst, htokens⟩ := exists_tokens_of_step hstep
      obtain ⟨more, hmore, hends⟩ := ih
      rw [htokens, List.append_assoc, ← List.flatten_append] at hends
      exact ⟨first ++ more, List.rel_append hfirst hmore, .next hstep hends⟩

/-- A scan that ends with tokens comes to the end of its input. -/
theorem exists_completes_of_ends {tokens : List Token}
    (hends : tokeniser.Ends input scan (.ok tokens)) :
    ∃ occurrences, tokeniser.Completes input scan occurrences := by
  generalize houtcome : (Except.ok tokens : Except Error (List Token)) = outcome at hends
  induction hends with
  | done hstep => exact ⟨[], .done hstep⟩
  | fail => cases houtcome
  | next hstep _ ih =>
      obtain ⟨occurrences, hrest⟩ := ih houtcome
      exact ⟨_, .next hstep hrest⟩

/-- The rules that are still to have their turn are the tokeniser's. -/
theorem pending_subset_of_reaches (hreaches : tokeniser.Reaches input scan) :
    scan.pending ⊆ tokeniser.rules := by
  induction hreaches with
  | refl => exact List.Subset.refl _
  | @tail before after _ hstep ih =>
      have hmoves : tokeniser.Moves input before _ := moves_step
      rw [hstep] at hmoves
      cases hmoves with
      | exhaust => exact List.nil_subset _
      | miss hpending | hit hpending =>
          rw [hpending] at ih
          exact (List.cons_subset.1 ih).2
      | next | passOver => exact List.Subset.refl _

/-- What occurs in a scan occurs in states that the scan comes to. -/
theorem Completes.exists_reaches (hcompletes : tokeniser.Completes input scan occurrences)
    (hreaches : tokeniser.Reaches input scan) (hmem : occurrence ∈ occurrences) :
    ∃ visited, tokeniser.Reaches input visited ∧
      tokeniser.occurrence? input visited = some occurrence := by
  induction hcompletes with
  | done => cases hmem
  | @next scan after occurrences hstep _ ih =>
      obtain hhere | hlater := List.mem_append.1 hmem
      · exact ⟨scan, hreaches, Option.mem_toList.1 hhere⟩
      · exact ih (hreaches.tail hstep) hlater

/-- Whatever state a scan comes to, what is left of its occurrences is what occurs from there on. -/
theorem Completes.exists_append
    (hcompletes : tokeniser.Completes input (tokeniser.start 0 []) occurrences)
    (hreaches : tokeniser.Reaches input scan) :
    ∃ before later, occurrences = before ++ later ∧ tokeniser.Completes input scan later := by
  induction hreaches with
  | refl => exact ⟨[], occurrences, rfl, hcompletes⟩
  | tail _ hstep ih =>
      obtain ⟨before, later, rfl, hlater⟩ := ih
      cases hlater with
      | done hother =>
          rw [hstep] at hother
          cases hother
      | next hother hrest =>
          rw [hstep] at hother
          cases hother
          exact ⟨_, _, (List.append_assoc _ _ _).symm, hrest⟩

/-- What occurs in a scan is what occurs in the states that the scan comes to. -/
theorem Completes.mem_iff
    (hcompletes : tokeniser.Completes input (tokeniser.start 0 []) occurrences) :
    occurrence ∈ occurrences ↔ ∃ scan, tokeniser.Reaches input scan ∧
      tokeniser.occurrence? input scan = some occurrence := by
  refine ⟨hcompletes.exists_reaches .refl, ?_⟩
  rintro ⟨scan, hreaches, hoccurs⟩
  obtain ⟨before, later, rfl, hlater⟩ := hcompletes.exists_append hreaches
  refine List.mem_append_right before ?_
  cases hlater with
  | done hstep =>
      have hmoves : tokeniser.Moves input scan _ := moves_step
      rw [hstep] at hmoves
      cases hmoves with
      | done hend =>
          rw [occurrence?_of_done hend] at hoccurs
          cases hoccurs
  | next => exact List.mem_append_left _ (Option.mem_toList.2 hoccurs)

/-- The rules that occur in a scan are the tokeniser's. -/
theorem Completes.rule_mem {rule : Rule} {found : RuleMatch}
    (hcompletes : tokeniser.Completes input (tokeniser.start 0 []) occurrences)
    (hmem : .matched rule found ∈ occurrences) : rule ∈ tokeniser.rules := by
  obtain ⟨scan, hreaches, hoccurs⟩ := hcompletes.mem_iff.1 hmem
  exact pending_subset_of_reaches hreaches (mem_pending_of_occurrence? hoccurs)

/-! ## Streams -/

/-- The stream of an input has the tokens of what occurs in its scan, one after the other. -/
theorem Completes.result_tokenise
    (hcompletes : tokeniser.Completes input (tokeniser.start 0 []) occurrences) :
    ∃ made, List.Forall₂ (fun occurrence tokens => tokeniser.tokensOf occurrence = .ok tokens)
      occurrences made ∧ (tokeniser.tokenise input).result = .ok ⟨made.flatten, 0, none⟩ := by
  obtain ⟨made, hmade, hends⟩ := hcompletes.ends
  exact ⟨made, hmade, result_tokenise_of_ends hends⟩

/-- A sound state whose rules have names does not fail. -/
theorem Sound.step_ne_error (hnamed : ∀ rule ∈ tokeniser.rules, rule.name ≠ none)
    (hsound : tokeniser.Sound input scan) (cause : Error) :
    tokeniser.step input scan ≠ .error cause := by
  intro hstep
  have hmoves : tokeniser.Moves input scan _ := moves_step
  rw [hstep] at hmoves
  cases hmoves with
  | slice | sliceUnmatched => exact hsound.step_ne_offBoundary _ hstep
  | @refuse rule rules text found cause hpending hoffset hplace htext hmatch hemit =>
      have htokens : (rule.reaction found).toTokens rule.name found.offset = .error cause := hemit
      have hrule : rule ∈ tokeniser.rules :=
        hsound.pending_subset (hpending ▸ List.mem_cons_self)
      exact hnamed rule hrule (Emit.toTokens_eq_error htokens).1
  | refuseUnmatched hpending hoffset hreached htext hemit => exact result_passOver_ne_error hemit

/-- Rules with names that match where the text begins bring every scan to the end of its input. -/
theorem exists_completes_of_named (hnamed : ∀ rule ∈ tokeniser.rules, rule.name ≠ none)
    (hprefixes : ∀ rule ∈ tokeniser.rules, rule.MatchesPrefix) (input : String) :
    ∃ occurrences, tokeniser.Completes input (tokeniser.start 0 []) occurrences := by
  have hends := ends_tokenise tokeniser input
  cases hresult : (tokeniser.tokenise input).result with
  | ok stream =>
      rw [hresult] at hends
      exact exists_completes_of_ends hends
  | error cause =>
      rw [hresult] at hends
      obtain ⟨last, hreaches, hstep⟩ := exists_of_ends_error .refl hends
      exact absurd hstep ((sound_of_reaches hprefixes hreaches).step_ne_error hnamed cause)

end Tokeniser

end TokenTree
