import Mathlib.Data.List.Forall2
import TokenTree.Proofs.Tokeniser.InPlace
import TokenTree.Proofs.Tokeniser.Segments
import TokenTree.Proofs.Tokeniser.Strides

/-!
# The order of the rules

Rules that share a place have their turns there in order, and all of them have one. So their order
decides in which order the tokens of one place follow one another, and nothing else: not what is
matched, not where the scan goes on, and not whether or where it fails. This holds of a single
stride, wherever it begins (`agree_stride`), and from that of the whole scan (`tokenise_perm`).
-/

namespace TokenTree

open Text (byteLength dropBytes?)

/-! ## The rules of one place -/

/-- The tokens of a rule at the start of a text, none where its reaction gives none. -/
def Rule.given (text : List Char) (offset : Nat) (rule : Rule) : List Token :=
  (rule.tokensAt text offset).toOption.getD []

namespace Tokeniser

variable {rules others : List Rule} {text : List Char} {offset : Nat}

/-- All rules that match at the start of the text give tokens. -/
def AllGive (text : List Char) (offset : Nat) (rules : List Rule) : Prop :=
  ∀ rule ∈ rules, rule.tokensAt text offset = .ok (rule.given text offset)

/-- A rule fails at the start of a text for one cause only. -/
theorem tokensAt_eq_error {rule : Rule} {cause : Error}
    (hfails : rule.tokensAt text offset = .error cause) : cause = .unnamedRuleValue offset := by
  rw [Rule.tokensAt] at hfails
  split at hfails
  · exact (Emit.toTokens_eq_error hfails).2
  · cases hfails

/-- Rules that give tokens give them in their order. -/
theorem mapM_tokensAt (hgive : AllGive text offset rules) :
    rules.mapM (fun rule => rule.tokensAt text offset) =
      .ok (rules.map (Rule.given text offset)) := by
  induction rules with
  | nil => rfl
  | cons rule rules ih =>
      obtain ⟨hrule, hrules⟩ := List.forall_mem_cons.1 hgive
      rw [List.mapM_cons, hrule, ok_bind, ih hrules]
      rfl

/-- Wherever a rule is that does not give tokens, all rules together fail in the same way. -/
theorem mapM_tokensAt_of_not (hgive : ¬ AllGive text offset rules) :
    rules.mapM (fun rule => rule.tokensAt text offset) = .error (.unnamedRuleValue offset) := by
  induction rules with
  | nil => exact absurd (fun _ hmem => nomatch hmem) hgive
  | cons rule rules ih =>
      rw [List.mapM_cons]
      cases hrule : rule.tokensAt text offset with
      | error cause =>
          rw [tokensAt_eq_error hrule]
          rfl
      | ok made =>
          have hrules : ¬ AllGive text offset rules := fun hrules =>
            hgive (List.forall_mem_cons.2 ⟨by rw [Rule.given, hrule]; rfl, hrules⟩)
          rw [ok_bind, ih hrules]
          rfl

/-- The longest match is no longer with fewer rules. -/
theorem longest_mono (hsubset : rules ⊆ others) :
    longest text offset rules ≤ longest text offset others := by
  by_cases hzero : longest text offset rules = 0
  · rw [hzero]
    exact Nat.zero_le _
  obtain ⟨rule, hrule, found, hmatch, hbytes⟩ := exists_longest hzero
  rw [← hbytes]
  exact le_longest (hsubset hrule) hmatch

/-- The longest match does not depend on the order of the rules. -/
theorem longest_perm (hrules : rules.Perm others) :
    longest text offset rules = longest text offset others :=
  Nat.le_antisymm (longest_mono hrules.subset) (longest_mono hrules.symm.subset)

/-- The order of the rules has no part in whether all of them give tokens. -/
theorem AllGive.perm (hgive : AllGive text offset rules) (hrules : rules.Perm others) :
    AllGive text offset others := fun rule hrule => hgive rule (hrules.mem_iff.2 hrule)

section Passes

variable {tokeniser : Tokeniser} (happlication : tokeniser.application = .overlapping)
include happlication

/-- A pass whose rules give tokens has those of all of them, in their order, and moves over the
longest match. -/
theorem pass_of_give (hgive : AllGive text offset tokeniser.rules) :
    (tokeniser.pass text offset).result =
      .ok (tokeniser.rules.flatMap (Rule.given text offset),
        longest text offset tokeniser.rules) := by
  rw [pass, happlication]
  show (overlap text offset tokeniser.rules).result = _
  rw [result_overlap, mapM_tokensAt hgive, List.flatMap_def]
  rfl

/-- A pass fails if one of its rules does. -/
theorem pass_of_not_give (hgive : ¬ AllGive text offset tokeniser.rules) :
    (tokeniser.pass text offset).result = .error (.unnamedRuleValue offset) := by
  rw [pass, happlication]
  show (overlap text offset tokeniser.rules).result = _
  rw [result_overlap, mapM_tokensAt_of_not hgive]
  rfl

end Passes

/-! ## One stride -/

/-- Two strides from one place have the tokens of the same rules, each in the order of its
tokeniser, or those of the same character, at which no rule matches. -/
inductive Rearranged (first second : Tokeniser) (input : String) : Stride → Stride → Prop where
  | matched {offset : Nat} {text : List Char} {rule : Rule} {found : RuleMatch}
      {given : Rule → List Token} (htext : dropBytes? input.toList offset = some text)
      (hrule : rule ∈ first.rules) (hmatch : rule.matchIn? text offset = some found)
      (hgiven : ∀ rule ∈ first.rules, rule.tokensAt text offset = .ok (given rule)) :
      Rearranged first second input ⟨offset, first.rules.flatMap given⟩
        ⟨offset, second.rules.flatMap given⟩
  | unmatched {offset : Nat} {c : Char} {rest : List Char} {tokens : List Token}
      (htext : dropBytes? input.toList offset = some (c :: rest))
      (hnone : ∀ rule ∈ first.rules, rule.matchIn? (c :: rest) offset = none)
      (hemit : (first.passOver c offset).result = .ok tokens) :
      Rearranged first second input ⟨offset, tokens⟩ ⟨offset, tokens⟩

/-- Two strides from one place end the scan, or fail for the same cause, or lead to the same place
with rearranged tokens. -/
inductive Agree (first second : Tokeniser) (input : String) (offset : Nat) :
    (left right : Except Error (Option (List Token × Nat))) → Prop where
  | done : Agree first second input offset (.ok none) (.ok none)
  | fail {cause : Error} : Agree first second input offset (.error cause) (.error cause)
  | lead {left right : List Token} {next : Nat}
      (htokens : Rearranged first second input ⟨offset, left⟩ ⟨offset, right⟩) :
      Agree first second input offset (.ok (some (left, next))) (.ok (some (right, next)))

section Pairs

variable {first second : Tokeniser} {input : String}

/-- A stride does not depend on the order of the rules but for the order of its tokens. -/
theorem agree_stride (hfirst : first.application = .overlapping)
    (hsecond : second.application = .overlapping) (hunmatched : first.unmatched = second.unmatched)
    (hrules : first.rules.Perm second.rules) (offset : Nat) :
    Agree first second input offset (first.stride input offset) (second.stride input offset) := by
  by_cases hend : byteLength input.toList ≤ offset
  · rw [stride_eq_none_iff.2 hend, stride_eq_none_iff.2 hend]
    exact .done
  have hoffset := Nat.lt_of_not_le hend
  cases htext : dropBytes? input.toList offset with
  | none =>
      rw [stride_eq_of_comesTo (.inside hoffset htext),
        stride_eq_of_comesTo (.inside hoffset htext)]
      exact .fail
  | some text =>
      by_cases hgive : AllGive text offset first.rules
      · have hleft := pass_of_give hfirst hgive
        have hright := pass_of_give hsecond (hgive.perm hrules)
        rw [← longest_perm hrules] at hright
        by_cases hzero : longest text offset first.rules = 0
        · have hnone := longest_eq_zero_iff.1 hzero
          obtain ⟨c, rest, rfl⟩ := exists_cons_of_lt hoffset htext
          have hnothing := congrArg Traced.result (pass_of_none hnone)
          have hnothing' : (second.pass (c :: rest) offset).result = .ok ([], 0) :=
            congrArg Traced.result (pass_of_none fun rule hrule =>
              hnone rule (hrules.mem_iff.2 hrule))
          have hover : first.passOver c offset = second.passOver c offset := by
            rw [passOver, passOver, hunmatched]
          cases hemit : (first.passOver c offset).result with
          | error cause => exact absurd hemit result_passOver_ne_error
          | ok tokens =>
              rw [stride_eq_of_comesTo (.passOver hoffset htext hnothing hemit),
                stride_eq_of_comesTo (.passOver hoffset htext hnothing' (hover ▸ hemit))]
              exact .lead (.unmatched htext hnone hemit)
        · obtain ⟨rule, hrule, found, hmatch, -⟩ := exists_longest hzero
          rw [stride_eq_of_comesTo (.pass hoffset htext hleft hzero),
            stride_eq_of_comesTo (.pass hoffset htext hright hzero)]
          exact .lead (.matched htext hrule hmatch hgive)
      · have hleft := pass_of_not_give hfirst hgive
        have hright := pass_of_not_give hsecond fun hother => hgive (hother.perm hrules.symm)
        rw [stride_eq_of_comesTo (.refuse hoffset htext hleft),
          stride_eq_of_comesTo (.refuse hoffset htext hright)]
        exact .fail

/-! ## The scan -/

section Scans

variable (hagree : ∀ offset,
  Agree first second input offset (first.stride input offset) (second.stride input offset))
include hagree

/-- Where strides agree they lead to the same places. -/
theorem leadsTo_of_agree {offset next : Nat} (hleads : first.LeadsTo input offset next) :
    second.LeadsTo input offset next := by
  obtain ⟨tokens, hstride⟩ := hleads
  have hsame := hagree offset
  rw [hstride] at hsame
  generalize hother : second.stride input offset = outcome at hsame
  cases hsame with
  | lead htokens => exact ⟨_, hother⟩

/-- Where strides agree the scan of the one comes to the places of the other. -/
theorem reaches_of_agree {offset place : Nat}
    (hleads : Relation.ReflTransGen (first.LeadsTo input) offset place) :
    Relation.ReflTransGen (second.LeadsTo input) offset place :=
  Relation.ReflTransGen.mono (fun _ _ hlead => leadsTo_of_agree hagree hlead) offset place hleads

/-- Where strides agree a scan that fails fails in the other as well. -/
theorem tokensAfter_of_agree {offset : Nat} {cause : Error}
    (hfails : first.tokensAfter input offset = .error cause) :
    second.tokensAfter input offset = .error cause := by
  obtain ⟨place, hleads, hstride⟩ := exists_fails hfails
  have hsame := hagree place
  rw [hstride] at hsame
  generalize hother : second.stride input place = outcome at hsame
  cases hsame with
  | fail => exact tokensAfter_of_fails (reaches_of_agree hagree hleads) hother

/-- Where strides agree a scan to the end goes to the end in the other as well, stride by stride. -/
theorem Strides.exists_rearranged {offset : Nat} {left : List Stride}
    (hstrides : first.Strides input offset left) :
    ∃ right, second.Strides input offset right ∧
      List.Forall₂ (Rearranged first second input) left right := by
  induction hstrides with
  | @done offset hstride =>
      have hsame := hagree offset
      rw [hstride] at hsame
      generalize hother : second.stride input offset = outcome at hsame
      cases hsame with
      | done => exact ⟨[], .done hother, .nil⟩
  | @next offset next tokens strides hstride _ ih =>
      obtain ⟨right, hright, hall⟩ := ih
      have hsame := hagree offset
      rw [hstride] at hsame
      generalize hother : second.stride input offset = outcome at hsame
      cases hsame with
      | lead htokens => exact ⟨_, .next hother hright, .cons htokens hall⟩

end Scans

end Pairs

/-- The order of rules that share a place changes neither the places that a scan visits nor whether
it fails, and for what cause. Where it does not fail, the two streams are made of the same strides,
those of the visited places: the tokens of a place are in both those of the same rules, in the order
of the rules, or else those of the same character. -/
theorem tokenise_perm {first second : Tokeniser} (hfirst : first.application = .overlapping)
    (hsecond : second.application = .overlapping) (hunmatched : first.unmatched = second.unmatched)
    (hrules : first.rules.Perm second.rules) (input : String) :
    (∀ offset, first.Visits input offset ↔ second.Visits input offset) ∧
    (∀ cause, (first.tokenise input).result = .error cause ↔
      (second.tokenise input).result = .error cause) ∧
    ∀ stream, (first.tokenise input).result = .ok stream →
      ∃ other left right, (second.tokenise input).result = .ok other ∧
        first.Strides input 0 left ∧ second.Strides input 0 right ∧
        (∀ offset, offset ∈ left.map Stride.offset ↔ first.Visits input offset) ∧
        stream.items = left.flatMap Stride.tokens ∧ other.items = right.flatMap Stride.tokens ∧
        List.Forall₂ (Rearranged first second input) left right := by
  have hagree : ∀ offset, Agree first second input offset _ _ :=
    agree_stride hfirst hsecond hunmatched hrules
  have hagree' : ∀ offset, Agree second first input offset _ _ :=
    agree_stride hsecond hfirst hunmatched.symm hrules.symm
  refine ⟨fun offset => ?_, fun cause => ?_, fun stream hstream => ?_⟩
  · exact and_congr_right fun _ => ⟨reaches_of_agree hagree, reaches_of_agree hagree'⟩
  · rw [result_tokenise_eq_error_iff, result_tokenise_eq_error_iff]
    exact ⟨tokensAfter_of_agree hagree, tokensAfter_of_agree hagree'⟩
  · obtain ⟨left, hleft, hitems⟩ := exists_strides (tokensAfter_of_ok hstream)
    obtain ⟨right, hright, hall⟩ := hleft.exists_rearranged hagree
    have hother : (second.tokenise input).result =
        .ok ⟨right.flatMap Stride.tokens, 0, none⟩ := by
      rw [result_tokenise_eq_tokensAfter, hright.tokensAfter_eq]
      rfl
    exact ⟨_, left, right, hother, hleft, hright, fun offset => hleft.mem_iff, hitems, rfl, hall⟩

/-- A letter and a word that begins with it, in either order: at the first place both match, and
what they give there changes places. -/
theorem tokenise_perm_layered : ∃ first second : Tokeniser, ∃ left right,
    ofSteps layered = .ok first ∧ second = { first with rules := first.rules.reverse } ∧
    first.rules.Perm second.rules ∧
    (first.tokenise "abbéa").result = .ok ⟨[.of ⟨"letter"⟩ (.text "a"),
      .of ⟨"word"⟩ (.text "abb"), .of ⟨"letter"⟩ (.text "a")], 0, none⟩ ∧
    (second.tokenise "abbéa").result = .ok ⟨[.of ⟨"word"⟩ (.text "abb"),
      .of ⟨"letter"⟩ (.text "a"), .of ⟨"letter"⟩ (.text "a")], 0, none⟩ ∧
    first.Strides "abbéa" 0 left ∧ second.Strides "abbéa" 0 right ∧
    List.Forall₂ (Rearranged first second "abbéa") left right := by
  have hlayered : ((ofSteps layered).toOption.any fun tokeniser =>
      tokeniser.application = .overlapping) = true := by
    decide +kernel
  have hleft : ((ofSteps layered).toOption.bind fun tokeniser =>
      (tokeniser.tokenise "abbéa").result.toOption) = some ⟨[.of ⟨"letter"⟩ (.text "a"),
        .of ⟨"word"⟩ (.text "abb"), .of ⟨"letter"⟩ (.text "a")], 0, none⟩ := by
    decide +kernel
  have hright : ((ofSteps layered).toOption.bind fun tokeniser =>
      (({ tokeniser with rules := tokeniser.rules.reverse } : Tokeniser).tokenise
        "abbéa").result.toOption) = some ⟨[.of ⟨"word"⟩ (.text "abb"),
          .of ⟨"letter"⟩ (.text "a"), .of ⟨"letter"⟩ (.text "a")], 0, none⟩ := by
    decide +kernel
  cases hbuild : ofSteps layered with
  | error cause =>
      rw [hbuild] at hlayered
      cases hlayered
  | ok first =>
      rw [hbuild] at hlayered hleft hright
      have happlication : first.application = .overlapping := by
        simpa [Except.toOption] using hlayered
      have hperm : first.rules.Perm first.rules.reverse := (List.reverse_perm _).symm
      have hstream := eq_ok_of_toOption hleft
      obtain ⟨other, left, right, hother, hstrides, hstrides', -, -, -, hall⟩ :=
        (@tokenise_perm first { first with rules := first.rules.reverse } happlication
          happlication rfl hperm "abbéa").2.2 _ hstream
      exact ⟨first, _, left, right, rfl, rfl, hperm, hstream, eq_ok_of_toOption hright, hstrides,
        hstrides', hall⟩

end Tokeniser

end TokenTree
