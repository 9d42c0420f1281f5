import TokenTree.Proofs.Tokeniser.Passes

/-!
# The segments of a text

What a tokeniser that tries all rules at the same place makes of a text, without the scan. A text is
split into segments: each is the longest match of the rules at its start, or a single character
where no rule matches. The tokens are those of the segments, one segment after the other, and the
tokens of a segment are those of all rules that match at its start. There is one such split, and the
tokeniser gives its tokens or fails where one of its segments does.
-/

namespace TokenTree

open Text (byteLength dropBytes?)

/-- The tokens of a rule at the start of a text: those of its match, none where it has no match. -/
def Rule.tokensAt (rule : Rule) (text : List Char) (offset : Nat) : Except Error (List Token) :=
  match rule.matchIn? text offset with
  | some found => (rule.reaction found).toTokens rule.name offset
  | none => .ok []

namespace Tokeniser

/-! ## Splits -/

/-- The text is split into these segments, the first of which begins at the offset. -/
inductive Splits (rules : List Rule) : Nat → List Char → List (List Char) → Prop where
  | nil {offset : Nat} : Splits rules offset [] []
  /-- The longest match of the rules at the start of the text. -/
  | matched {offset : Nat} {text rest : List Char} {segments : List (List Char)} {rule : Rule}
      {found : RuleMatch} (hrule : rule ∈ rules) (hmatch : rule.matchIn? text offset = some found)
      (hlongest : ∀ other ∈ rules, ∀ further, other.matchIn? text offset = some further →
        further.bytes ≤ found.bytes)
      (htext : text = found.text.toList ++ rest)
      (hrest : Splits rules (offset + found.bytes) rest segments) :
      Splits rules offset text (found.text.toList :: segments)
  /-- A character at which no rule matches. -/
  | unmatched {offset : Nat} {c : Char} {rest : List Char} {segments : List (List Char)}
      (hnone : ∀ rule ∈ rules, rule.matchIn? (c :: rest) offset = none)
      (hrest : Splits rules (offset + c.utf8Size) rest segments) :
      Splits rules offset (c :: rest) ([c] :: segments)

/-- The tokens at the start of a text: those of all rules that match there, in the order of the
rules, or those of the first character where no rule does. -/
def tokensAt (tokeniser : Tokeniser) (text : List Char) (offset : Nat) :
    Except Error (List Token) :=
  match text with
  | [] => .ok []
  | c :: rest =>
      if ∀ rule ∈ tokeniser.rules, rule.matchIn? (c :: rest) offset = none then
        (tokeniser.passOver c offset).result
      else List.flatten <$> tokeniser.rules.mapM fun rule => rule.tokensAt (c :: rest) offset

/-- The tokens of segments, the first of which begins at the offset. -/
def segmentTokens (tokeniser : Tokeniser) : Nat → List (List Char) → Except Error (List Token)
  | _, [] => .ok []
  | offset, segment :: segments => do
      let tokens ← tokeniser.tokensAt (segment ++ segments.flatten) offset
      let more ← tokeniser.segmentTokens (offset + byteLength segment) segments
      return tokens ++ more

variable {tokeniser : Tokeniser} {rules : List Rule} {text : List Char} {offset : Nat}

/-- The segments cover the text, each character once. -/
theorem Splits.flatten_eq {segments : List (List Char)}
    (hsplits : Splits rules offset text segments) : segments.flatten = text := by
  induction hsplits with
  | nil => rfl
  | matched _ _ _ htext _ ih => rw [List.flatten_cons, ih, htext]
  | unmatched _ _ ih => rw [List.flatten_cons, ih, List.singleton_append]

/-- A match has characters. -/
theorem text_ne_nil_of_matchIn? {rule : Rule} {found : RuleMatch}
    (hmatch : rule.matchIn? text offset = some found) : found.text.toList ≠ [] := by
  obtain ⟨inner, -, hne, htext, -⟩ := Rule.exists_search?_of_matchIn? hmatch
  rwa [htext]

/-- No segment is empty. -/
theorem Splits.ne_nil {segments : List (List Char)} (hsplits : Splits rules offset text segments) :
    ∀ segment ∈ segments, segment ≠ [] := by
  induction hsplits with
  | nil => exact fun _ hsegment => nomatch hsegment
  | matched _ hmatch _ _ _ ih => exact List.forall_mem_cons.2 ⟨text_ne_nil_of_matchIn? hmatch, ih⟩
  | unmatched _ _ ih => exact List.forall_mem_cons.2 ⟨List.cons_ne_nil _ _, ih⟩

/-- The characters before a place are determined by their bytes. -/
theorem append_inj_of_byteLength_eq {front other rest after : List Char}
    (htext : front ++ rest = other ++ after) (hbytes : byteLength front = byteLength other) :
    front = other ∧ rest = after := by
  have hrest : dropBytes? (front ++ rest) (byteLength front) = some rest :=
    Text.dropBytes?_eq_some_iff.2 ⟨front, rfl, rfl⟩
  have hafter : dropBytes? (front ++ rest) (byteLength front) = some after :=
    Text.dropBytes?_eq_some_iff.2 ⟨other, htext, hbytes.symm⟩
  obtain rfl : rest = after := Option.some.inj (hrest.symm.trans hafter)
  exact ⟨List.append_cancel_right htext, rfl⟩

/-- A text is split in one way at most. -/
theorem Splits.unique {left right : List (List Char)} (hleft : Splits rules offset text left)
    (hright : Splits rules offset text right) : left = right := by
  -- Both splits begin with a match or both with a character, and two longest matches are the same.
  induction hleft generalizing right with
  | nil =>
      generalize hnil : ([] : List Char) = text at hright
      cases hright with
      | nil => rfl
      | matched _ hmatch _ htext _ =>
          rw [← hnil] at htext
          exact absurd (List.append_eq_nil_iff.1 htext.symm).1 (text_ne_nil_of_matchIn? hmatch)
      | unmatched => cases hnil
  | matched hrule hmatch hlongest htext hrest ih =>
      cases hright with
      | nil => exact absurd (List.append_eq_nil_iff.1 htext.symm).1 (text_ne_nil_of_matchIn? hmatch)
      | matched hrule' hmatch' hlongest' htext' hrest' =>
          have hbytes := Nat.le_antisymm (hlongest' _ hrule _ hmatch) (hlongest _ hrule' _ hmatch')
          obtain ⟨hsame, rfl⟩ := append_inj_of_byteLength_eq (htext.symm.trans htext') hbytes
          rw [← hbytes] at hrest'
          rw [hsame, ih hrest']
      | unmatched hnone _ =>
          rw [hnone _ hrule] at hmatch
          cases hmatch
  | unmatched hnone hrest ih =>
      cases hright with
      | matched hrule hmatch =>
          rw [hnone _ hrule] at hmatch
          cases hmatch
      | unmatched _ hrest' => rw [ih hrest']

/-! ## Longest matches -/

/-- The bytes of the longest match of the rules at the start of a text, 0 where no rule matches. -/
def longest (text : List Char) (offset : Nat) : List Rule → Nat
  | [] => 0
  | rule :: rules =>
      match rule.matchIn? text offset with
      | some found => max found.bytes (longest text offset rules)
      | none => longest text offset rules

/-- No match is longer than the longest. -/
theorem le_longest {rule : Rule} {found : RuleMatch} (hrule : rule ∈ rules)
    (hmatch : rule.matchIn? text offset = some found) :
    found.bytes ≤ longest text offset rules := by
  induction rules with
  | nil => cases hrule
  | cons first rules ih =>
      rw [longest]
      obtain rfl | hrules := List.mem_cons.1 hrule
      · rw [hmatch]
        exact Nat.le_max_left _ _
      · have hle := ih hrules
        split
        · exact Nat.le_trans hle (Nat.le_max_right _ _)
        · exact hle

/-- Some rule has the longest match, if any rule matches. -/
theorem exists_longest (hlongest : longest text offset rules ≠ 0) :
    ∃ rule ∈ rules, ∃ found, rule.matchIn? text offset = some found ∧
      found.bytes = longest text offset rules := by
  induction rules with
  | nil => exact absurd rfl hlongest
  | cons first rules ih =>
      rw [longest] at hlongest ⊢
      split at hlongest
      · next found hmatch =>
          by_cases hle : longest text offset rules ≤ found.bytes
          · exact ⟨first, List.mem_cons_self, found, hmatch, (Nat.max_eq_left hle).symm⟩
          · obtain ⟨rule, hrule, further, hfurther, hbytes⟩ := ih (by omega)
            exact ⟨rule, List.mem_cons_of_mem _ hrule, further, hfurther, by omega⟩
      · next hnone =>
          obtain ⟨rule, hrule, further, hfurther, hbytes⟩ := ih hlongest
          exact ⟨rule, List.mem_cons_of_mem _ hrule, further, hfurther, hbytes⟩

/-- Nothing is the longest match exactly where no rule matches. -/
theorem longest_eq_zero_iff :
    longest text offset rules = 0 ↔ ∀ rule ∈ rules, rule.matchIn? text offset = none := by
  constructor
  · intro hzero rule hrule
    cases hmatch : rule.matchIn? text offset with
    | none => rfl
    | some found =>
        have hpos := Rule.bytes_pos_of_matchIn? hmatch
        have hle := le_longest hrule hmatch
        omega
  · intro hnone
    refine Nat.eq_zero_of_not_pos fun hpos => ?_
    obtain ⟨rule, hrule, found, hmatch, -⟩ := exists_longest (Nat.ne_of_gt hpos)
    rw [hnone rule hrule] at hmatch
    cases hmatch

/-- The tokens of a match are those of its rule at the start of the text. -/
theorem result_emitMatch {rule : Rule} {found : RuleMatch}
    (hmatch : rule.matchIn? text offset = some found) :
    (emitMatch rule found).result = rule.tokensAt text offset := by
  rw [Rule.tokensAt, hmatch, emitMatch, Rule.offset_of_matchIn? hmatch, Traced.result_bind]
  rfl

/-- Rules tried at the same place give the tokens of all that match, and the bytes of the longest
match. -/
theorem result_overlap :
    (overlap text offset rules).result = do
      let made ← rules.mapM fun rule => rule.tokensAt text offset
      return (made.flatten, longest text offset rules) := by
  induction rules with
  | nil => rfl
  | cons rule rules ih =>
      rw [overlap, longest, List.mapM_cons]
      cases hmatch : rule.matchIn? text offset with
      | none =>
          have hnothing : rule.tokensAt text offset = .ok [] := by rw [Rule.tokensAt, hmatch]
          simp only [ih, hnothing, ok_bind, bind_assoc, pure_bind, List.flatten_cons,
            List.nil_append]
      | some found =>
          simp only [Traced.result_bind, result_emitMatch hmatch, Traced.result_pure, ih,
            bind_assoc, pure_bind, List.flatten_cons]
          rfl

/-! ## Scans -/

/-- A scan of a text that begins with a character at which no rule matches. -/
theorem tokensFrom_of_unmatched {c : Char} {rest : List Char}
    (hnone : ∀ rule ∈ tokeniser.rules, rule.matchIn? (c :: rest) offset = none) :
    tokeniser.tokensFrom (c :: rest) offset = do
      let tokens ← tokeniser.tokensAt (c :: rest) offset
      let more ← tokeniser.tokensFrom rest (offset + c.utf8Size)
      return tokens ++ more := by
  rw [tokensFrom_of_none hnone, tokensAt, if_pos hnone]
  simp only [map_eq_pure_bind]

/-- A scan of a text that begins with a match, the longest of those there. -/
theorem tokensFrom_of_longest (happlication : tokeniser.application = .overlapping) {rule : Rule}
    {found : RuleMatch} {after : List Char} (hrule : rule ∈ tokeniser.rules)
    (hmatch : rule.matchIn? text offset = some found)
    (hlongest : found.bytes = longest text offset tokeniser.rules)
    (hdrop : dropBytes? text found.bytes = some after) :
    tokeniser.tokensFrom text offset = do
      let tokens ← tokeniser.tokensAt text offset
      let more ← tokeniser.tokensFrom after (offset + found.bytes)
      return tokens ++ more := by
  have hsome : ¬∀ other ∈ tokeniser.rules, other.matchIn? text offset = none := by
    intro hnone
    rw [hnone rule hrule] at hmatch
    cases hmatch
  obtain ⟨c, rest, rfl⟩ := exists_cons_of_match hmatch
  rw [tokensFrom_of_match hrule hmatch, pass, happlication, tokensAt, if_neg hsome]
  show (overlap (c :: rest) offset tokeniser.rules).result >>= _ = _
  rw [result_overlap, ← hlongest]
  simp only [bind_assoc, pure_bind, behind, hdrop, map_eq_pure_bind]

/-- A scan of a text gives the tokens of its segments. -/
theorem exists_splits (happlication : tokeniser.application = .overlapping)
    (hprefixes : ∀ rule ∈ tokeniser.rules, rule.MatchesPrefix) (text : List Char) (offset : Nat) :
    ∃ segments, Splits tokeniser.rules offset text segments ∧
      tokeniser.tokensFrom text offset = tokeniser.segmentTokens offset segments := by
  -- On the length of the text, of which a segment takes some off.
  induction hlength : text.length using Nat.strongRecOn generalizing text offset with
  | ind length ih =>
  cases text with
  | nil => exact ⟨[], .nil, tokensFrom_nil tokeniser offset⟩
  | cons c rest =>
      by_cases hzero : longest (c :: rest) offset tokeniser.rules = 0
      · have hnone := longest_eq_zero_iff.1 hzero
        have hshorter : rest.length < length := by
          rw [← hlength]
          exact Nat.lt_succ_self _
        obtain ⟨segments, hsplits, hscan⟩ :=
          ih rest.length hshorter rest (offset + c.utf8Size) rfl
        refine ⟨[c] :: segments, .unmatched hnone hsplits, ?_⟩
        rw [tokensFrom_of_unmatched hnone, hscan, segmentTokens, hsplits.flatten_eq]
        rfl
      · obtain ⟨rule, hrule, found, hmatch, hbytes⟩ := exists_longest hzero
        obtain ⟨after, hafter⟩ := hprefixes rule hrule _ _ _ hmatch
        have hdrop : dropBytes? (c :: rest) found.bytes = some after :=
          Text.dropBytes?_eq_some_iff.2 ⟨_, hafter.symm, rfl⟩
        have hshorter : after.length < length := by
          rw [← hlength]
          exact Text.length_lt_of_dropBytes? hdrop (hbytes ▸ hzero)
        obtain ⟨segments, hsplits, hscan⟩ :=
          ih after.length hshorter after (offset + found.bytes) rfl
        have hlongest (other : Rule) (hother : other ∈ tokeniser.rules) (further : RuleMatch)
            (hfurther : other.matchIn? (c :: rest) offset = some further) :
            further.bytes ≤ found.bytes := hbytes ▸ le_longest hother hfurther
        refine ⟨_, .matched hrule hmatch hlongest hafter.symm hsplits, ?_⟩
        rw [tokensFrom_of_longest happlication hrule hmatch hbytes hdrop, hscan, segmentTokens,
          hsplits.flatten_eq, hafter]
        rfl

/-- The tokens of an input are those of its segments, in order: the input splits in exactly one way
into longest matches and characters at which no rule matches, the segments cover it without a gap,
and the stream has the tokens of one segment after the other and is at its start. Where a segment
fails to give tokens, the input does for the same cause. -/
theorem tokenise_eq_segments (happlication : tokeniser.application = .overlapping)
    (hprefixes : ∀ rule ∈ tokeniser.rules, rule.MatchesPrefix) (input : String) :
    ∃ segments,
      (∀ other, Splits tokeniser.rules 0 input.toList other ↔ other = segments) ∧
      segments.flatten = input.toList ∧ (∀ segment ∈ segments, segment ≠ []) ∧
      (tokeniser.tokenise input).result =
        (tokeniser.segmentTokens 0 segments).map fun tokens => ⟨tokens, 0, none⟩ := by
  obtain ⟨segments, hsplits, hscan⟩ := exists_splits happlication hprefixes input.toList 0
  have hunique (other : List (List Char)) :
      Splits tokeniser.rules 0 input.toList other ↔ other = segments :=
    ⟨fun hother => hother.unique hsplits, fun hother => hother ▸ hsplits⟩
  refine ⟨segments, hunique, hsplits.flatten_eq, hsplits.ne_nil, ?_⟩
  rw [result_tokenise, hscan]

/-- Two rules of which one matches the beginning of what the other does. -/
def layered : List Step := [.token ⟨"letter"⟩ "a", .token ⟨"word"⟩ "ab+"]

/-- The tokens of a text with both, and with a character at which neither matches. -/
theorem tokenise_layered : ∃ tokeniser segments, ofSteps layered = .ok tokeniser ∧
    (∀ other, Splits tokeniser.rules 0 "abbéa".toList other ↔ other = segments) ∧
    segments.flatten = "abbéa".toList ∧ (∀ segment ∈ segments, segment ≠ []) ∧
    (tokeniser.tokenise "abbéa").result =
      (tokeniser.segmentTokens 0 segments).map fun tokens => ⟨tokens, 0, none⟩ := by
  have hlayered : ((ofSteps layered).toOption.any fun tokeniser =>
      tokeniser.application = .overlapping &&
        tokeniser.rules.all fun rule => !Rule.escapes rule.source) = true := by
    decide +kernel
  cases hbuild : ofSteps layered with
  | error cause =>
      rw [hbuild] at hlayered
      cases hlayered
  | ok tokeniser =>
      rw [hbuild] at hlayered
      obtain ⟨happlication, hcontained⟩ : tokeniser.application = .overlapping ∧
          ∀ rule ∈ tokeniser.rules, Rule.escapes rule.source = false := by
        simpa [Except.toOption] using hlayered
      have hprefixes (rule : Rule) (hrule : rule ∈ tokeniser.rules) : rule.MatchesPrefix :=
        Rule.matchesPrefix_of_compile (compiled_ofSteps hbuild rule hrule) (hcontained rule hrule)
      obtain ⟨segments, hsegments⟩ := tokenise_eq_segments happlication hprefixes "abbéa"
      exact ⟨tokeniser, segments, rfl, hsegments⟩

end Tokeniser

end TokenTree
