import TokenTree.Proofs.Tokeniser.Machine

/-!
# Passes

What a scan does with a pass. Where no rule matches a pass has no tokens and moves over nothing, so
the scan passes a character over; where some rule does it moves on, and the scan goes on behind it.
Both hold however the rules share a place.
-/

namespace TokenTree.Tokeniser

open Text (dropBytes? dropBytes?_add)

variable {tokeniser : Tokeniser} {front rules : List Rule} {text : List Char} {offset : Nat}

/-! ## Rules without a match -/

/-- Rules that do not match leave the place to the rules after them. -/
theorem overlap_append_of_none (hnone : ∀ rule ∈ front, rule.matchIn? text offset = none) :
    overlap text offset (front ++ rules) = overlap text offset rules := by
  induction front with
  | nil => rfl
  | cons rule front ih =>
      obtain ⟨hrule, hfront⟩ := List.forall_mem_cons.1 hnone
      rw [List.cons_append, overlap, hrule]
      exact ih hfront

/-- At the end of the text no rule has a turn. -/
theorem chain_nil (rules : List Rule) (offset : Nat) : chain rules [] offset = pure ([], 0) := by
  cases rules <;> rfl

/-- A rule that does not match leaves its turn to the rules after it. -/
theorem chain_of_miss {rule : Rule} (hmatch : rule.matchIn? text offset = none) :
    chain (rule :: rules) text offset = chain rules text offset := by
  cases text with
  | nil => rw [chain_nil, chain_nil]
  | cons c rest =>
      rw [chain, hmatch]
      rfl

/-- Rules that do not match leave their turns to the rules after them. -/
theorem chain_append_of_none (hnone : ∀ rule ∈ front, rule.matchIn? text offset = none) :
    chain (front ++ rules) text offset = chain rules text offset := by
  induction front with
  | nil => rfl
  | cons rule front ih =>
      obtain ⟨hrule, hfront⟩ := List.forall_mem_cons.1 hnone
      rw [List.cons_append, chain_of_miss hrule]
      exact ih hfront

/-- A pass at which no rule matches has no tokens and moves over nothing. -/
theorem pass_of_none (hnone : ∀ rule ∈ tokeniser.rules, rule.matchIn? text offset = none) :
    tokeniser.pass text offset = pure ([], 0) := by
  rw [pass, ← List.append_nil tokeniser.rules]
  split
  · exact overlap_append_of_none hnone
  · exact chain_append_of_none hnone

/-! ## Rules with a match -/

section Matches

variable {rule : Rule} {found : RuleMatch} {made : List Token × Nat}

/-- There is text where a rule matches. -/
theorem exists_cons_of_match (hmatch : rule.matchIn? text offset = some found) :
    ∃ c rest, text = c :: rest := by
  cases text with
  | nil =>
      have hpos := Rule.bytes_pos_of_matchIn? hmatch
      exact absurd hpos (Nat.not_lt.2 (Rule.bytes_le_of_matchIn? hmatch))
  | cons c rest => exact ⟨c, rest, rfl⟩

/-- A rule that matches gives its tokens before those of the rules after it, and moves over its
match at least. -/
theorem overlap_of_match (hmatch : rule.matchIn? text offset = some found) :
    (overlap text offset (rule :: rules)).result =
      (emitMatch rule found).result >>= fun tokens =>
        (overlap text offset rules).result >>= fun more =>
          .ok (tokens ++ more.1, max found.bytes more.2) := by
  rw [overlap, hmatch]
  simp only [Traced.result_bind, Traced.result_pure]

/-- A rule that matches gives its tokens, and the rules after it have their turns behind it. -/
theorem chain_of_match (hmatch : rule.matchIn? text offset = some found) :
    (chain (rule :: rules) text offset).result =
      (emitMatch rule found).result >>= fun tokens =>
        match dropBytes? text found.bytes with
        | some after =>
            (chain rules after (offset + found.bytes)).result >>= fun more =>
              .ok (tokens ++ more.1, found.bytes + more.2)
        | none => .error (.offBoundary (offset + found.bytes)) := by
  obtain ⟨c, rest, rfl⟩ := exists_cons_of_match hmatch
  rw [chain, hmatch]
  show (emitMatch rule found >>= _).result = _
  rw [Traced.result_bind]
  refine bind_congr fun tokens => ?_
  cases dropBytes? (c :: rest) found.bytes with
  | none => rfl
  | some after => simp only [Traced.result_bind, Traced.result_pure]

/-- Where some rule matches there is a first one that does. -/
theorem exists_first_match (hrule : rule ∈ rules)
    (hmatch : rule.matchIn? text offset = some found) :
    ∃ front first other back, rules = front ++ first :: back ∧
      (∀ before ∈ front, before.matchIn? text offset = none) ∧
      first.matchIn? text offset = some other := by
  induction rules with
  | nil => cases hrule
  | cons head rules ih =>
      cases hhead : head.matchIn? text offset with
      | some other => exact ⟨[], head, other, rules, rfl, fun _ hmem => (nomatch hmem), hhead⟩
      | none =>
          have hrules : rule ∈ rules := by
            refine (List.mem_cons.1 hrule).resolve_left ?_
            rintro rfl
            rw [hmatch] at hhead
            cases hhead
          obtain ⟨front, first, other, back, rfl, hfront, hfirst⟩ := ih hrules
          exact ⟨head :: front, first, other, back, rfl, List.forall_mem_cons.2 ⟨hhead, hfront⟩,
            hfirst⟩

/-- A pass moves on if a rule matches. -/
theorem pass_ne_zero (hrule : rule ∈ tokeniser.rules)
    (hmatch : rule.matchIn? text offset = some found)
    (hpass : (tokeniser.pass text offset).result = .ok made) : made.2 ≠ 0 := by
  obtain ⟨front, first, other, back, hrules, hfront, hfirst⟩ := exists_first_match hrule hmatch
  have hpos := Rule.bytes_pos_of_matchIn? hfirst
  rw [pass, hrules] at hpass
  split at hpass
  · rw [overlap_append_of_none hfront, overlap_of_match hfirst] at hpass
    obtain ⟨tokens, -, hpass⟩ := bind_eq_ok_iff.1 hpass
    obtain ⟨more, -, hmade⟩ := bind_eq_ok_iff.1 hpass
    cases hmade
    show max other.bytes more.2 ≠ 0
    omega
  · rw [chain_append_of_none hfront, chain_of_match hfirst] at hpass
    obtain ⟨tokens, -, hpass⟩ := bind_eq_ok_iff.1 hpass
    split at hpass
    · obtain ⟨more, -, hmade⟩ := bind_eq_ok_iff.1 hpass
      cases hmade
      show other.bytes + more.2 ≠ 0
      omega
    · cases hpass

end Matches

/-! ## What a scan does behind a pass -/

/-- What a scan makes of the text behind a pass, after the tokens of the pass. The text has to go on
between two characters. -/
def behind (scan : List Char → Nat → Except Error (List Token)) (text : List Char) (offset : Nat)
    (made : List Token × Nat) : Except Error (List Token) :=
  match dropBytes? text made.2 with
  | some after => (made.1 ++ ·) <$> scan after (offset + made.2)
  | none => .error (.offBoundary (offset + made.2))

/-- Two scans that agree on the text behind a pass go on in the same way. -/
theorem behind_congr {scan other : List Char → Nat → Except Error (List Token)}
    {made : List Token × Nat} (hagree : ∀ after, dropBytes? text made.2 = some after →
      scan after (offset + made.2) = other after (offset + made.2)) :
    behind scan text offset made = behind other text offset made := by
  rw [behind, behind]
  split
  · next after hdrop => rw [hagree after hdrop]
  · rfl

/-- Behind a pass that moves over nothing, and so has no tokens, the text is the same. -/
theorem behind_zero (scan : List Char → Nat → Except Error (List Token)) (text : List Char)
    (offset : Nat) : behind scan text offset ([], 0) = scan text offset := by
  rw [behind, dropBytes?]
  show (fun tokens => tokens) <$> scan text offset = scan text offset
  exact id_map _

/-- Going on behind a pass and a further pass is going on behind the further one. -/
theorem behind_add (scan : List Char → Nat → Except Error (List Token)) {after : List Char}
    {tokens : List Token} {bytes : Nat} (hdrop : dropBytes? text bytes = some after)
    (more : List Token × Nat) :
    behind scan text offset (tokens ++ more.1, bytes + more.2) =
      (tokens ++ ·) <$> behind scan after (offset + bytes) more := by
  rw [behind, behind, dropBytes?_add hdrop, Nat.add_assoc]
  cases dropBytes? after more.2 with
  | none => rfl
  | some rest =>
      simp only [List.append_assoc, Functor.map_map]

/-- The tokens of a text that a scan gives, without its journal. -/
def tokensFrom (tokeniser : Tokeniser) (text : List Char) (offset : Nat) :
    Except Error (List Token) :=
  (tokeniser.scanFrom text offset).result

/-- The tokens of an input are those from its start on, in a stream that nothing is read of. -/
theorem result_tokenise (tokeniser : Tokeniser) (input : String) :
    (tokeniser.tokenise input).result =
      (tokeniser.tokensFrom input.toList 0).map fun tokens => ⟨tokens, 0, none⟩ := by
  rw [tokenise, Traced.result_bind, ← tokensFrom]
  cases tokeniser.tokensFrom input.toList 0 <;> rfl

/-- A scan that ends with tokens gives them in a stream that nothing is read of, and one that fails
fails as a whole. -/
theorem result_tokenise_of_ends {input : String} {outcome : Except Error (List Token)}
    (hends : tokeniser.Ends input (tokeniser.start 0 []) outcome) :
    (tokeniser.tokenise input).result = outcome.map fun tokens => ⟨tokens, 0, none⟩ := by
  have hequal := (ends_tokenise tokeniser input).unique hends
  rw [result_tokenise] at hequal ⊢
  rw [← hequal]
  cases tokeniser.tokensFrom input.toList 0 <;> rfl

/-- A scan has no tokens at the end of the text. -/
theorem tokensFrom_nil (tokeniser : Tokeniser) (offset : Nat) :
    tokeniser.tokensFrom [] offset = .ok [] := by
  rw [tokensFrom, scanFrom]
  rfl

/-- A scan makes a pass, and then passes a character over or goes on behind the pass. -/
theorem tokensFrom_cons (tokeniser : Tokeniser) (c : Char) (rest : List Char) (offset : Nat) :
    tokeniser.tokensFrom (c :: rest) offset =
      (tokeniser.pass (c :: rest) offset).result >>= fun made =>
        if made.2 = 0 then
          (tokeniser.passOver c offset).result >>= fun tokens =>
            (tokens ++ ·) <$> tokeniser.tokensFrom rest (offset + c.utf8Size)
        else behind tokeniser.tokensFrom (c :: rest) offset made := by
  rw [tokensFrom, scanFrom, Traced.result_bind]
  refine bind_congr fun made => ?_
  obtain ⟨tokens, bytes⟩ := made
  by_cases hbytes : bytes = 0
  · simp only [hbytes, dif_pos, if_pos, Traced.result_bind]
    rfl
  · simp only [dif_neg hbytes, if_neg hbytes, behind]
    split
    · next hdrop => rw [hdrop]; rfl
    · next after hdrop =>
        rw [hdrop, Traced.result_bind]
        rfl

/-- Where no rule matches a scan passes a character over. -/
theorem tokensFrom_of_none {c : Char} {rest : List Char}
    (hnone : ∀ rule ∈ tokeniser.rules, rule.matchIn? (c :: rest) offset = none) :
    tokeniser.tokensFrom (c :: rest) offset =
      (tokeniser.passOver c offset).result >>= fun tokens =>
        (tokens ++ ·) <$> tokeniser.tokensFrom rest (offset + c.utf8Size) := by
  rw [tokensFrom_cons, pass_of_none hnone]
  rfl

/-- Where a rule matches a scan goes on behind the pass. -/
theorem tokensFrom_of_match {rule : Rule} {found : RuleMatch} (hrule : rule ∈ tokeniser.rules)
    (hmatch : rule.matchIn? text offset = some found) :
    tokeniser.tokensFrom text offset =
      (tokeniser.pass text offset).result >>= behind tokeniser.tokensFrom text offset := by
  obtain ⟨c, rest, rfl⟩ := exists_cons_of_match hmatch
  rw [tokensFrom_cons]
  cases hpass : (tokeniser.pass (c :: rest) offset).result with
  | error cause => rfl
  | ok made => exact if_neg (pass_ne_zero hrule hmatch hpass)

end TokenTree.Tokeniser
