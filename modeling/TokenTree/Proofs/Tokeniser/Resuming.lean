import TokenTree.Proofs.Registration
import TokenTree.Proofs.Tokeniser.Modes

/-!
# Scans that start in the middle

What a scan has read has no part in what it finds from there on. Where a pass begins, the rest of
the input could be an input of its own: a rule matches there as it does in the rest alone, only
offsets are counted from another start. So the tokens of an input are those made before the pass,
followed by those of the rest (`tokenise_resumes`), as long as no reaction looks at the offset of
its match.
-/

namespace TokenTree

open Text (dropBytes? dropBytes?_add)

/-- The cause of a failure, with byte offsets counted from a start so many bytes before. -/
def Error.addOffset (start : Nat) : Error → Error
  | .unnamedRuleValue offset => .unnamedRuleValue (start + offset)
  | .offBoundary offset => .offBoundary (start + offset)
  | cause => cause

/-- The match, with its offset counted from a start that lies so many bytes before. -/
def RuleMatch.addOffset (start : Nat) (found : RuleMatch) : RuleMatch :=
  { found with offset := start + found.offset }

/-- The reaction of the rule does not look at the offset of the match. -/
def Rule.IgnoresOffset (rule : Rule) : Prop :=
  ∀ found offset, rule.reaction { found with offset } = rule.reaction found

/-! ## Matches -/

/-- A rule matches a text in the same way wherever the text begins. -/
theorem Rule.matchIn?_add (rule : Rule) (text : List Char) (start offset : Nat) :
    rule.matchIn? text (start + offset) =
      (rule.matchIn? text offset).map (RuleMatch.addOffset start) := by
  cases hmatch : rule.matchIn? text offset with
  | some found =>
      rw [Rule.matchIn?_at hmatch, Option.map_some, RuleMatch.addOffset,
        Rule.offset_of_matchIn? hmatch]
  | none =>
      cases hmoved : rule.matchIn? text (start + offset) with
      | none => rfl
      | some found =>
          rw [Rule.matchIn?_at hmoved] at hmatch
          cases hmatch

/-- A rule matches the input behind a place between two characters as it matches the rest alone. -/
theorem Rule.matchAt_add (rule : Rule) {input : String} {text : List Char} {start : Nat}
    (htext : dropBytes? input.toList start = some text) (offset : Nat) :
    rule.matchAt input (start + offset) =
      (Option.map (RuleMatch.addOffset start) <$> rule.matchAt (String.ofList text) offset).mapError
        (Error.addOffset start) := by
  rw [matchAt, matchAt, dropBytes?_add htext, String.toList_ofList]
  cases dropBytes? text offset with
  | none => rfl
  | some rest =>
      show Except.ok (rule.matchIn? rest (start + offset)) = _
      rw [rule.matchIn?_add]
      rfl

/-- What a reaction gave has the same tokens at every offset. -/
theorem Emit.toTokens_add (emit : Emit) (name : Option Kind) (start offset : Nat) :
    emit.toTokens name (start + offset) =
      (emit.toTokens name offset).mapError (Error.addOffset start) := by
  cases emit <;> cases name <;> rfl

namespace Tokeniser

variable {tokeniser : Tokeniser} {rules : List Rule} {input : String} {text : List Char}
  {offset : Nat} {tokens : List Token}

/-- A match has the same tokens at every offset if the reaction does not look at it. -/
theorem result_emitMatch_add {rule : Rule} (hignores : rule.IgnoresOffset) (found : RuleMatch)
    (start : Nat) :
    (emitMatch rule (found.addOffset start)).result =
      (emitMatch rule found).result.mapError (Error.addOffset start) := by
  show (rule.reaction (found.addOffset start)).toTokens rule.name (start + found.offset) =
    ((rule.reaction found).toTokens rule.name found.offset).mapError (Error.addOffset start)
  rw [RuleMatch.addOffset, hignores, Emit.toTokens_add]

/-- The length of a match does not depend on where it is. -/
@[simp] theorem bytes_addOffset (found : RuleMatch) (start : Nat) :
    (found.addOffset start).bytes = found.bytes := rfl

/-! ## Passes -/

/-- Rules that share a place give the same at every offset. -/
theorem result_overlap_add (hignores : ∀ rule ∈ rules, rule.IgnoresOffset) (start offset : Nat) :
    (overlap text (start + offset) rules).result =
      (overlap text offset rules).result.mapError (Error.addOffset start) := by
  induction rules with
  | nil => rfl
  | cons rule rules ih =>
      obtain ⟨hrule, hrules⟩ := List.forall_mem_cons.1 hignores
      have hmoved := rule.matchIn?_add text start offset
      cases hmatch : rule.matchIn? text offset with
      | none =>
          rw [hmatch] at hmoved
          rw [overlap, hmoved, overlap, hmatch]
          exact ih hrules
      | some found =>
          rw [hmatch] at hmoved
          rw [overlap_of_match hmoved, overlap_of_match hmatch, mapError_bind,
            result_emitMatch_add hrule]
          refine bind_congr fun made => ?_
          rw [mapError_bind, ih hrules]
          rfl

/-- Rules that follow one another give the same at every offset. -/
theorem result_chain_add (hignores : ∀ rule ∈ rules, rule.IgnoresOffset) (start offset : Nat) :
    (chain rules text (start + offset)).result =
      (chain rules text offset).result.mapError (Error.addOffset start) := by
  induction rules generalizing text offset with
  | nil => rfl
  | cons rule rules ih =>
      obtain ⟨hrule, hrules⟩ := List.forall_mem_cons.1 hignores
      have hmoved := rule.matchIn?_add text start offset
      cases hmatch : rule.matchIn? text offset with
      | none =>
          rw [hmatch] at hmoved
          rw [chain_of_miss hmoved, chain_of_miss hmatch]
          exact ih hrules offset
      | some found =>
          rw [hmatch] at hmoved
          rw [chain_of_match hmoved, chain_of_match hmatch, mapError_bind,
            result_emitMatch_add hrule]
          refine bind_congr fun made => ?_
          rw [bytes_addOffset, Nat.add_assoc]
          cases dropBytes? text found.bytes with
          | none => rfl
          | some after =>
              show (chain rules after (start + (offset + found.bytes))).result >>= _ = _
              rw [ih hrules, mapError_bind]
              rfl

/-- A pass gives the same at every offset. -/
theorem result_pass_add (hignores : ∀ rule ∈ tokeniser.rules, rule.IgnoresOffset)
    (start offset : Nat) :
    (tokeniser.pass text (start + offset)).result =
      (tokeniser.pass text offset).result.mapError (Error.addOffset start) := by
  rw [pass, pass]
  cases tokeniser.application with
  | overlapping => exact result_overlap_add hignores start offset
  | chained => exact result_chain_add hignores start offset

/-- A character that no rule matches gives the same at every offset. -/
theorem result_passOver_add (tokeniser : Tokeniser) (c : Char) (start offset : Nat) :
    (tokeniser.passOver c (start + offset)).result =
      (tokeniser.passOver c offset).result.mapError (Error.addOffset start) := by
  rw [passOver, passOver]
  cases tokeniser.unmatched with
  | skip => rfl
  | emit name handler =>
      show (handler c).toTokens (some name) (start + offset) = _
      exact (handler c).toTokens_add (some name) start offset

/-! ## Scans -/

/-- A scan of a text gives the same tokens at every offset, or the same cause of failure with
another offset. -/
theorem tokensFrom_add (hignores : ∀ rule ∈ tokeniser.rules, rule.IgnoresOffset)
    (text : List Char) (start offset : Nat) :
    tokeniser.tokensFrom text (start + offset) =
      (tokeniser.tokensFrom text offset).mapError (Error.addOffset start) := by
  -- On the length of the text, of which a pass takes some off or else one character is passed over.
  induction hlength : text.length using Nat.strongRecOn generalizing text offset with
  | ind length ih =>
  subst hlength
  cases text with
  | nil => rw [tokensFrom_nil, tokensFrom_nil]; rfl
  | cons c rest =>
      rw [tokensFrom_cons, tokensFrom_cons, mapError_bind, result_pass_add hignores]
      refine bind_congr fun made => ?_
      by_cases hmade : made.2 = 0
      · rw [if_pos hmade, if_pos hmade, mapError_bind, result_passOver_add]
        refine bind_congr fun passed => ?_
        rw [mapError_map, Nat.add_assoc, ih rest.length (Nat.lt_succ_self _) rest _ rfl]
      · rw [if_neg hmade, if_neg hmade, behind, behind, Nat.add_assoc]
        cases hdrop : dropBytes? (c :: rest) made.2 with
        | none => rfl
        | some after =>
            have hless := Text.length_lt_of_dropBytes? hdrop hmade
            show (made.1 ++ ·) <$> tokeniser.tokensFrom after (start + (offset + made.2)) = _
            rw [ih after.length hless after _ rfl, mapError_map]

/-! ## Runs -/

/-- The tokens of an input are those made before a pass and those of the text from there on. -/
theorem tokensFrom_of_reaches (htext : dropBytes? input.toList offset = some text)
    (hreaches : tokeniser.Reaches input (tokeniser.start offset tokens)) :
    tokeniser.tokensFrom input.toList 0 = (tokens ++ ·) <$> tokeniser.tokensFrom text offset := by
  have hwhole : tokeniser.Ends input (tokeniser.start 0 []) _ :=
    ends_start [] (show dropBytes? input.toList 0 = some input.toList by rw [dropBytes?])
  have hrest : tokeniser.Ends input (tokeniser.start 0 []) _ :=
    (ends_start tokens htext).of_reaches hreaches
  have hequal := hwhole.unique hrest
  rw [← tokensFrom, ← tokensFrom] at hequal
  rw [map_eq_pure_bind]
  exact (bind_pure _).symm.trans hequal

/-- Wherever a pass begins between two characters, the input has the tokens made so far followed by
those of the rest as an input of its own, and fails where the rest fails, for the same cause with
the offset counted from the start of the input. From there on every rule matches as it does in the
rest. -/
theorem tokenise_resumes (hignores : ∀ rule ∈ tokeniser.rules, rule.IgnoresOffset)
    (htext : dropBytes? input.toList offset = some text)
    (hreaches : tokeniser.Reaches input (tokeniser.start offset tokens)) :
    (tokeniser.tokenise input).result =
      ((fun stream => ⟨tokens ++ stream.items, 0, none⟩) <$>
        (tokeniser.tokenise (String.ofList text)).result).mapError (Error.addOffset offset) ∧
    ∀ (rule : Rule) (place : Nat), rule.matchAt input (offset + place) =
      (Option.map (RuleMatch.addOffset offset) <$>
        rule.matchAt (String.ofList text) place).mapError (Error.addOffset offset) := by
  refine ⟨?_, fun rule place => rule.matchAt_add htext place⟩
  have hmoved := tokensFrom_add hignores text offset 0
  rw [Nat.add_zero] at hmoved
  rw [result_tokenise, result_tokenise, tokensFrom_of_reaches htext hreaches, hmoved,
    String.toList_ofList]
  cases tokeniser.tokensFrom text 0 <;> rfl

/-- The reactions of the rules do not look at offsets if those that were registered do not. -/
theorem ignoresOffset_ofSteps {steps : List Step} (hbuild : ofSteps steps = .ok tokeniser)
    (hsteps : ∀ step ∈ steps, ∀ definition, step.rule? = some definition →
      ∀ found offset, definition.2.2 { found with offset } = definition.2.2 found) :
    ∀ rule ∈ tokeniser.rules, rule.IgnoresOffset := by
  intro rule hrule
  obtain ⟨step, hstep, hdefinition⟩ := (defines_ofSteps hbuild).exists_step hrule
  exact hsteps step hstep _ hdefinition

/-- Words, and numbers that have no name for their values. -/
def partlyNamed : List Step :=
  [.token ⟨"word"⟩ "[a-zé]+", .anonymousRule "[0-9]+" fun found => .value (.text found.text)]

/-- The scan comes behind the word, and the number fails there as it does in the rest, two bytes
further on. -/
theorem tokenise_resumes_partlyNamed : ∃ tokeniser, ofSteps partlyNamed = .ok tokeniser ∧
    tokeniser.Reaches "é 1" (tokeniser.start 2 [.of ⟨"word"⟩ (.text "é")]) ∧
    (tokeniser.tokenise " 1").result = .error (.unnamedRuleValue 1) ∧
    (tokeniser.tokenise "é 1").result = .error (.unnamedRuleValue 3) := by
  have hpasses : ((ofSteps partlyNamed).toOption.bind fun tokeniser =>
      (tokeniser.pass "é 1".toList 0).result.toOption) =
        some ([.of ⟨"word"⟩ (.text "é")], 2) := by
    decide +kernel
  have hfails : ((ofSteps partlyNamed).toOption.bind fun tokeniser =>
      match (tokeniser.tokenise " 1").result with
      | .ok _ => none
      | .error cause => some cause) = some (.unnamedRuleValue 1) := by
    decide +kernel
  cases hbuild : ofSteps partlyNamed with
  | error cause =>
      rw [hbuild] at hpasses
      cases hpasses
  | ok tokeniser =>
      rw [hbuild] at hpasses hfails
      have hdefined := defines_ofSteps hbuild
      have hignores : ∀ rule ∈ tokeniser.rules, rule.IgnoresOffset := by
        refine ignoresOffset_ofSteps hbuild fun step hstep definition hdefinition found offset => ?_
        obtain rfl | hlast := List.mem_cons.1 hstep
        · cases hdefinition
          rfl
        · obtain rfl := List.mem_singleton.1 hlast
          cases hdefinition
          rfl
      have hpass : (tokeniser.pass "é 1".toList 0).result = .ok ([.of ⟨"word"⟩ (.text "é")], 2) :=
        eq_ok_of_toOption hpasses
      have hreaches : tokeniser.Reaches "é 1" (tokeniser.start 2 [.of ⟨"word"⟩ (.text "é")]) :=
        reaches_behind hdefined.application (by decide) .refl hpass (by decide)
      have hrest : (tokeniser.tokenise " 1").result = .error (.unnamedRuleValue 1) := by
        cases hresult : (tokeniser.tokenise " 1").result with
        | error cause => simpa [Except.toOption, hresult] using hfails
        | ok stream => simp [Except.toOption, hresult] at hfails
      have htext : dropBytes? "é 1".toList 2 = some " 1".toList := by decide
      refine ⟨tokeniser, rfl, hreaches, hrest, ?_⟩
      have hresumes := (tokenise_resumes hignores htext hreaches).1
      rw [String.ofList_toList, hrest] at hresumes
      exact hresumes

end Tokeniser

end TokenTree
