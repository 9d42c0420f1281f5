import Mathlib.Logic.Relation
import TokenTree.Proofs.Tokeniser.Passes

/-!
# The strides of a scan

A scan goes through its input in strides, each from one offset to the next: a pass, or the passing
over of the character at which no rule of the pass matches. `comesTo_stride` says what a stride can
come to, and everything else is read off from that. A scan is nothing but strides, until the input
ends or one of them fails (`tokensAfter_eq`). So what holds of every stride, wherever it begins,
holds of all places that a scan visits and of all tokens that it makes there.
-/

namespace TokenTree

open Text (byteLength dropBytes? dropBytes?_add byteLength_of_dropBytes?)

/-- A stride that a scan made: its offset, and the tokens made there. -/
structure Stride where
  offset : Nat
  tokens : List Token

namespace Tokeniser

/-! ## One stride -/

/-- The stride from an offset: its tokens and the next offset, or none at the end of the input. -/
def stride (tokeniser : Tokeniser) (input : String) (offset : Nat) :
    Except Error (Option (List Token × Nat)) :=
  if byteLength input.toList ≤ offset then .ok none
  else
    match dropBytes? input.toList offset with
    | some (c :: rest) => do
        let (tokens, bytes) ← (tokeniser.pass (c :: rest) offset).result
        if bytes = 0 then
          let tokens ← (tokeniser.passOver c offset).result
          return some (tokens, offset + c.utf8Size)
        else return some (tokens, offset + bytes)
    | _ => .error (.offBoundary offset)

/-- What a stride can come to, and when. -/
inductive ComesTo (tokeniser : Tokeniser) (input : String) (offset : Nat) :
    Except Error (Option (List Token × Nat)) → Prop where
  /-- The input ends. -/
  | done (hend : byteLength input.toList ≤ offset) : ComesTo tokeniser input offset (.ok none)
  /-- The offset is inside a character. -/
  | inside (hoffset : offset < byteLength input.toList)
      (htext : dropBytes? input.toList offset = none) :
      ComesTo tokeniser input offset (.error (.offBoundary offset))
  /-- The pass fails. -/
  | refuse {text : List Char} {cause : Error} (hoffset : offset < byteLength input.toList)
      (htext : dropBytes? input.toList offset = some text)
      (hpass : (tokeniser.pass text offset).result = .error cause) :
      ComesTo tokeniser input offset (.error cause)
  /-- Some rule of the pass matches. -/
  | pass {text : List Char} {tokens : List Token} {bytes : Nat}
      (hoffset : offset < byteLength input.toList)
      (htext : dropBytes? input.toList offset = some text)
      (hpass : (tokeniser.pass text offset).result = .ok (tokens, bytes)) (hbytes : bytes ≠ 0) :
      ComesTo tokeniser input offset (.ok (some (tokens, offset + bytes)))
  /-- No rule of the pass matches, and what becomes of the character gives no tokens. -/
  | refuseOver {c : Char} {rest : List Char} {cause : Error}
      (hoffset : offset < byteLength input.toList)
      (htext : dropBytes? input.toList offset = some (c :: rest))
      (hpass : (tokeniser.pass (c :: rest) offset).result = .ok ([], 0))
      (hemit : (tokeniser.passOver c offset).result = .error cause) :
      ComesTo tokeniser input offset (.error cause)
  /-- No rule of the pass matches, so a character is passed over. -/
  | passOver {c : Char} {rest : List Char} {tokens : List Token}
      (hoffset : offset < byteLength input.toList)
      (htext : dropBytes? input.toList offset = some (c :: rest))
      (hpass : (tokeniser.pass (c :: rest) offset).result = .ok ([], 0))
      (hemit : (tokeniser.passOver c offset).result = .ok tokens) :
      ComesTo tokeniser input offset (.ok (some (tokens, offset + c.utf8Size)))

variable {tokeniser : Tokeniser} {input : String} {offset next : Nat} {text : List Char}
  {tokens : List Token}

/-- There is text left where a place is between two characters and before the end. -/
theorem exists_cons_of_lt (hoffset : offset < byteLength input.toList)
    (htext : dropBytes? input.toList offset = some text) : ∃ c rest, text = c :: rest := by
  have hlength := byteLength_of_dropBytes? htext
  cases text with
  | nil =>
      rw [Text.byteLength_nil] at hlength
      omega
  | cons c rest => exact ⟨c, rest, rfl⟩

/-- A stride comes to what its conditions say. -/
theorem stride_eq_of_comesTo {outcome : Except Error (Option (List Token × Nat))}
    (hcomes : tokeniser.ComesTo input offset outcome) :
    tokeniser.stride input offset = outcome := by
  cases hcomes with
  | done hend => exact if_pos hend
  | inside hoffset htext => rw [stride, if_neg (Nat.not_le.2 hoffset), htext]
  | refuse hoffset htext hpass =>
      obtain ⟨c, rest, rfl⟩ := exists_cons_of_lt hoffset htext
      rw [stride, if_neg (Nat.not_le.2 hoffset), htext]
      simp only [hpass, error_bind]
  | pass hoffset htext hpass hbytes =>
      obtain ⟨c, rest, rfl⟩ := exists_cons_of_lt hoffset htext
      rw [stride, if_neg (Nat.not_le.2 hoffset), htext]
      simp only [hpass, ok_bind, if_neg hbytes]
      rfl
  | refuseOver hoffset htext hpass hemit =>
      rw [stride, if_neg (Nat.not_le.2 hoffset), htext]
      simp only [hpass, ok_bind, if_pos, hemit, error_bind]
  | passOver hoffset htext hpass hemit =>
      rw [stride, if_neg (Nat.not_le.2 hoffset), htext]
      simp only [hpass, ok_bind, if_pos, hemit]
      rfl

/-- Whatever a stride comes to, its conditions hold. -/
theorem comesTo_stride (tokeniser : Tokeniser) (input : String) (offset : Nat) :
    tokeniser.ComesTo input offset (tokeniser.stride input offset) := by
  -- Some case applies to every offset, and whichever applies says what the stride comes to.
  suffices h : ∃ outcome, tokeniser.ComesTo input offset outcome by
    obtain ⟨outcome, hcomes⟩ := h
    rwa [stride_eq_of_comesTo hcomes]
  by_cases hend : byteLength input.toList ≤ offset
  · exact ⟨_, .done hend⟩
  have hoffset := Nat.lt_of_not_le hend
  cases htext : dropBytes? input.toList offset with
  | none => exact ⟨_, .inside hoffset htext⟩
  | some text =>
      obtain ⟨c, rest, rfl⟩ := exists_cons_of_lt hoffset htext
      cases hpass : (tokeniser.pass (c :: rest) offset).result with
      | error cause => exact ⟨_, .refuse hoffset htext hpass⟩
      | ok made =>
          obtain ⟨tokens, bytes⟩ := made
          by_cases hbytes : bytes = 0
          · -- A pass that moves over nothing has no tokens.
            obtain rfl := (pass_spec hpass).2 hbytes
            subst hbytes
            cases hemit : (tokeniser.passOver c offset).result with
            | error cause => exact ⟨_, .refuseOver hoffset htext hpass hemit⟩
            | ok passed => exact ⟨_, .passOver hoffset htext hpass hemit⟩
          · exact ⟨_, .pass hoffset htext hpass hbytes⟩

/-- There is no stride exactly at the end of the input. -/
theorem stride_eq_none_iff :
    tokeniser.stride input offset = .ok none ↔ byteLength input.toList ≤ offset := by
  refine ⟨fun hstride => ?_, fun hend => stride_eq_of_comesTo (.done hend)⟩
  have hcomes := comesTo_stride tokeniser input offset
  rw [hstride] at hcomes
  cases hcomes with
  | done hend => exact hend

/-- A stride begins before the end of the input and leads on. -/
theorem lt_of_stride (hstride : tokeniser.stride input offset = .ok (some (tokens, next))) :
    offset < byteLength input.toList ∧ offset < next := by
  have hcomes := comesTo_stride tokeniser input offset
  rw [hstride] at hcomes
  cases hcomes with
  | pass hoffset _ _ hbytes =>
      exact ⟨hoffset, Nat.lt_add_of_pos_right (Nat.pos_of_ne_zero hbytes)⟩
  | @passOver c _ _ hoffset => exact ⟨hoffset, Nat.lt_add_of_pos_right c.utf8Size_pos⟩

/-! ## A scan in strides -/

/-- The tokens that the scan of an input makes from an offset on. -/
def tokensAfter (tokeniser : Tokeniser) (input : String) (offset : Nat) :
    Except Error (List Token) :=
  if byteLength input.toList ≤ offset then .ok []
  else
    match dropBytes? input.toList offset with
    | some text => tokeniser.tokensFrom text offset
    | none => .error (.offBoundary offset)

/-- Between two characters they are the tokens of the text that is left. -/
theorem tokensAfter_of_some (htext : dropBytes? input.toList offset = some text) :
    tokeniser.tokensAfter input offset = tokeniser.tokensFrom text offset := by
  rw [tokensAfter, htext]
  split
  · next hend =>
      have hlength := byteLength_of_dropBytes? htext
      cases text with
      | nil => exact (tokensFrom_nil tokeniser offset).symm
      | cons c rest =>
          have hpos := Text.byteLength_pos (List.cons_ne_nil c rest)
          omega
  · rfl

/-- The scan goes on behind a pass from where its matches end. -/
theorem behind_eq_tokensAfter (htext : dropBytes? input.toList offset = some text)
    {made : List Token × Nat} (hle : made.2 ≤ byteLength text) :
    behind tokeniser.tokensFrom text offset made =
      (made.1 ++ ·) <$> tokeniser.tokensAfter input (offset + made.2) := by
  have hlength := byteLength_of_dropBytes? htext
  have hafter := dropBytes?_add htext made.2
  rw [behind]
  cases hdrop : dropBytes? text made.2 with
  | some after => rw [tokensAfter_of_some (hafter.trans hdrop)]
  | none =>
      have hlt := Text.lt_of_dropBytes?_eq_none hdrop hle
      rw [tokensAfter, if_neg (by omega), hafter, hdrop]
      rfl

/-- A scan makes a stride, and goes on from where that leads. -/
theorem tokensAfter_eq (tokeniser : Tokeniser) (input : String) (offset : Nat) :
    tokeniser.tokensAfter input offset =
      tokeniser.stride input offset >>= fun
        | some (tokens, next) => (tokens ++ ·) <$> tokeniser.tokensAfter input next
        | none => .ok [] := by
  have hcomes := comesTo_stride tokeniser input offset
  generalize tokeniser.stride input offset = outcome at hcomes
  cases hcomes with
  | done hend =>
      rw [tokensAfter, if_pos hend]
      rfl
  | inside hoffset htext =>
      rw [tokensAfter, if_neg (Nat.not_le.2 hoffset), htext]
      rfl
  | refuse hoffset htext hpass =>
      obtain ⟨c, rest, rfl⟩ := exists_cons_of_lt hoffset htext
      rw [tokensAfter_of_some htext, tokensFrom_cons, hpass]
      rfl
  | pass hoffset htext hpass hbytes =>
      obtain ⟨c, rest, rfl⟩ := exists_cons_of_lt hoffset htext
      rw [tokensAfter_of_some htext, tokensFrom_cons, hpass, ok_bind, if_neg hbytes,
        behind_eq_tokensAfter htext (pass_spec hpass).1]
      rfl
  | refuseOver hoffset htext hpass hemit =>
      rw [tokensAfter_of_some htext, tokensFrom_cons, hpass, ok_bind, if_pos rfl, hemit]
      rfl
  | @passOver c rest tokens hoffset htext hpass hemit =>
      have hrest : dropBytes? input.toList (offset + c.utf8Size) = some rest := by
        rw [dropBytes?_add htext, Text.dropBytes?_cons]
      rw [tokensAfter_of_some htext, tokensFrom_cons, hpass, ok_bind, if_pos rfl, hemit,
        ← tokensAfter_of_some hrest]
      rfl

/-- A scan goes on from where its stride leads, after the tokens of that. -/
theorem tokensAfter_of_stride
    (hstride : tokeniser.stride input offset = .ok (some (tokens, next))) :
    tokeniser.tokensAfter input offset = (tokens ++ ·) <$> tokeniser.tokensAfter input next := by
  rw [tokensAfter_eq, hstride]
  rfl

/-- The result for an input has the tokens from its start on. -/
theorem result_tokenise_eq_tokensAfter (tokeniser : Tokeniser) (input : String) :
    (tokeniser.tokenise input).result =
      (tokeniser.tokensAfter input 0).map fun tokens => ⟨tokens, 0, none⟩ := by
  rw [result_tokenise, tokensAfter_of_some]
  rw [dropBytes?]

/-- A stream holds the tokens from the start of its input on. -/
theorem tokensAfter_of_ok {stream : TokenStream}
    (hresult : (tokeniser.tokenise input).result = .ok stream) :
    tokeniser.tokensAfter input 0 = .ok stream.items := by
  rw [result_tokenise_eq_tokensAfter] at hresult
  cases htokens : tokeniser.tokensAfter input 0 with
  | error cause =>
      rw [htokens] at hresult
      cases hresult
  | ok tokens =>
      rw [htokens] at hresult
      cases hresult
      rfl

/-- An input fails for the cause for which its scan does. -/
theorem result_tokenise_eq_error_iff {cause : Error} :
    (tokeniser.tokenise input).result = .error cause ↔
      tokeniser.tokensAfter input 0 = .error cause := by
  rw [result_tokenise_eq_tokensAfter]
  cases tokeniser.tokensAfter input 0 with
  | error other => rw [Except.map, Except.error.injEq, Except.error.injEq]
  | ok tokens => exact iff_of_false (fun hsame => nomatch hsame) fun hsame => nomatch hsame

/-! ## Places -/

/-- A stride leads from one offset to the other. -/
def LeadsTo (tokeniser : Tokeniser) (input : String) (offset next : Nat) : Prop :=
  ∃ tokens, tokeniser.stride input offset = .ok (some (tokens, next))

/-- The scan of the input comes to this place, where it makes its next stride or fails to. -/
def Visits (tokeniser : Tokeniser) (input : String) (offset : Nat) : Prop :=
  offset < byteLength input.toList ∧
    Relation.ReflTransGen (tokeniser.LeadsTo input) 0 offset

/-- These are all strides of the scan of an input from an offset to the end, in order. -/
inductive Strides (tokeniser : Tokeniser) (input : String) : Nat → List Stride → Prop where
  | done {offset : Nat} (hstride : tokeniser.stride input offset = .ok none) :
      Strides tokeniser input offset []
  | next {offset next : Nat} {tokens : List Token} {strides : List Stride}
      (hstride : tokeniser.stride input offset = .ok (some (tokens, next)))
      (hrest : Strides tokeniser input next strides) :
      Strides tokeniser input offset (⟨offset, tokens⟩ :: strides)

/-- A scan comes to the end in strides, or to a place from which a stride fails. -/
theorem exists_strides_or_fails (tokeniser : Tokeniser) (input : String) (offset : Nat) :
    (∃ strides, tokeniser.Strides input offset strides) ∨
      ∃ place cause, Relation.ReflTransGen (tokeniser.LeadsTo input) offset place ∧
        tokeniser.stride input place = .error cause := by
  -- On the bytes that are left, of which a stride takes some.
  induction hleft : byteLength input.toList - offset using Nat.strongRecOn
    generalizing offset with
  | ind left ih =>
  cases hstride : tokeniser.stride input offset with
  | error cause => exact .inr ⟨offset, cause, .refl, hstride⟩
  | ok made =>
      cases made with
      | none => exact .inl ⟨[], .done hstride⟩
      | some made =>
          obtain ⟨tokens, next⟩ := made
          obtain ⟨hoffset, hlt⟩ := lt_of_stride hstride
          have hnext := ih (byteLength input.toList - next) (by omega) next rfl
          obtain ⟨strides, hstrides⟩ | ⟨place, cause, hleads, hfails⟩ := hnext
          · exact .inl ⟨_, .next hstride hstrides⟩
          · exact .inr ⟨place, cause, .head ⟨tokens, hstride⟩ hleads, hfails⟩

/-- The tokens of a scan to the end are those of its strides. -/
theorem Strides.tokensAfter_eq {strides : List Stride}
    (hstrides : tokeniser.Strides input offset strides) :
    tokeniser.tokensAfter input offset = .ok (strides.flatMap Stride.tokens) := by
  induction hstrides with
  | done hstride =>
      rw [Tokeniser.tokensAfter_eq, hstride]
      rfl
  | next hstride _ ih =>
      rw [tokensAfter_of_stride hstride, ih, List.flatMap_cons]
      rfl

/-- A scan fails for the cause for which a stride fails that it comes to. -/
theorem tokensAfter_of_fails {place : Nat} {cause : Error}
    (hleads : Relation.ReflTransGen (tokeniser.LeadsTo input) offset place)
    (hfails : tokeniser.stride input place = .error cause) :
    tokeniser.tokensAfter input offset = .error cause := by
  induction hleads using Relation.ReflTransGen.head_induction_on with
  | refl =>
      rw [tokensAfter_eq, hfails]
      rfl
  | head hfirst _ ih =>
      obtain ⟨tokens, hstride⟩ := hfirst
      rw [tokensAfter_of_stride hstride, ih]
      rfl

/-- A scan that makes tokens makes them in strides. -/
theorem exists_strides (htokens : tokeniser.tokensAfter input offset = .ok tokens) :
    ∃ strides, tokeniser.Strides input offset strides ∧
      tokens = strides.flatMap Stride.tokens := by
  obtain ⟨strides, hstrides⟩ | ⟨place, cause, hleads, hfails⟩ :=
    exists_strides_or_fails tokeniser input offset
  · rw [hstrides.tokensAfter_eq] at htokens
    cases htokens
    exact ⟨strides, hstrides, rfl⟩
  · rw [tokensAfter_of_fails hleads hfails] at htokens
    cases htokens

/-- A scan that fails comes to a place from which a stride fails. -/
theorem exists_fails {cause : Error} (htokens : tokeniser.tokensAfter input offset = .error cause) :
    ∃ place, Relation.ReflTransGen (tokeniser.LeadsTo input) offset place ∧
      tokeniser.stride input place = .error cause := by
  obtain ⟨strides, hstrides⟩ | ⟨place, other, hleads, hfails⟩ :=
    exists_strides_or_fails tokeniser input offset
  · rw [hstrides.tokensAfter_eq] at htokens
    cases htokens
  · rw [tokensAfter_of_fails hleads hfails] at htokens
    cases htokens
    exact ⟨place, hleads, hfails⟩

/-- A scan to the end has been at the offsets of its strides and at no others. -/
theorem Strides.mem_iff {first : Nat} {strides : List Stride}
    (hstrides : tokeniser.Strides input first strides) :
    offset ∈ strides.map Stride.offset ↔
      offset < byteLength input.toList ∧
        Relation.ReflTransGen (tokeniser.LeadsTo input) first offset := by
  induction hstrides with
  | @done first hstride =>
      have hend := stride_eq_none_iff.1 hstride
      refine iff_of_false (fun hmem => nomatch hmem) ?_
      rintro ⟨hoffset, hleads⟩
      obtain rfl | ⟨next, ⟨tokens, hother⟩, -⟩ := hleads.cases_head
      · omega
      · rw [hstride] at hother
        cases hother
  | @next first next tokens strides hstride _ ih =>
      rw [List.map_cons, List.mem_cons, ih]
      constructor
      · rintro (rfl | ⟨hoffset, hleads⟩)
        · exact ⟨(lt_of_stride hstride).1, .refl⟩
        · exact ⟨hoffset, .head ⟨tokens, hstride⟩ hleads⟩
      · rintro ⟨hoffset, hleads⟩
        obtain rfl | ⟨other, ⟨made, hother⟩, hrest⟩ := hleads.cases_head
        · exact .inl rfl
        · rw [hstride] at hother
          cases hother
          exact .inr ⟨hoffset, hrest⟩

end Tokeniser

end TokenTree
