import TokenTree.Proofs.Pattern.Anchored
import TokenTree.Proofs.Pattern.ClosedGroups
import TokenTree.Tokeniser.Rule

/-!
# Which patterns rules accept

A rule is compiled from its pattern in a group after `^`, and the group is put around the text of
the pattern. Limits on nesting and size left aside, what is accepted in the group is compared here
with what is a pattern by itself. A pattern is accepted unless it ends with a comment that is open,
of which the parenthesis of the group becomes a part (`IsPattern.wrapped_iff`). A text that is no
pattern is rejected unless a parenthesis of its own closes the group, after what is a pattern by
itself (`IsPattern.exists_closing`).
-/

namespace TokenTree

namespace Pattern

/-- The term that a text spells, however deep it is nested. -/
def Term.spelled? (text : List Char) : Option Term := do
  let (term, after) ← (Reader.body (text.length + 1) [] []).run ⟨text, false, 0, []⟩
  if after.rest.isEmpty then some term else none

section

variable [Properties]

/-- The text is a pattern, limits on its nesting and size aside. -/
def IsPattern (text : List Char) : Prop := ((Term.spelled? text).bind Term.meaning?).isSome

instance : DecidablePred IsPattern := fun _ => inferInstanceAs (Decidable (_ = true))

/-- The text keeps to the limits on nesting and size as far as it is a pattern. -/
def WithinLimits (text : List Char) : Prop :=
  (Term.spelled? text).all fun term =>
    term.nesting ≤ maxNesting && term.meaning?.all (·.size ≤ Expr.maxSize)

instance : DecidablePred WithinLimits := fun _ => inferInstanceAs (Decidable (_ = true))

end

/-- What is read is what is spelled, unless it is nested too deep. -/
theorem Term.read?_eq_filter (text : List Char) :
    Term.read? text = (Term.spelled? text).filter (·.nesting ≤ maxNesting) := by
  unfold Term.read? Term.spelled?
  cases (Reader.body (text.length + 1) [] []).run ⟨text, false, 0, []⟩ with
  | none => rfl
  | some result =>
      obtain ⟨term, after⟩ := result
      show (if after.rest.isEmpty && _ then some term else none) =
        (if after.rest.isEmpty then some term else none).filter _
      cases after.rest.isEmpty <;> rfl

/-- An expression has a program unless it is too large. -/
theorem Expr.isSome_program? (expr : Expr) :
    expr.program?.isSome = decide (expr.size ≤ maxSize) := by
  rw [program?]
  split
  · rename_i hsize
    rw [decide_eq_true hsize]
    rfl
  · rename_i hsize
    rw [decide_eq_false hsize]
    rfl

/-- A pattern spells a term that has a meaning. -/
theorem isPattern_iff [Properties] {text : List Char} :
    IsPattern text ↔ ∃ term, Term.spelled? text = some term ∧ term.meaning?.isSome := by
  unfold IsPattern
  cases Term.spelled? text <;> simp

/-- A property has to be known by its name. Without Unicode a byte has to be ASCII, and so has every
item of a set, whatever the whole set comes to. -/
example : IsPattern "[\\PN&&\\p{Greek}]".toList ∧ ¬ IsPattern "\\p{Nope}".toList ∧
    ¬ IsPattern "(?-u)\\xFF".toList ∧ ¬ IsPattern "(?-u)[\\W&&a]".toList := by
  decide +kernel

/-- What is compiled are the patterns that keep to the limits. -/
theorem isSome_compile?_iff [Properties] (text : List Char) :
    (compile? text).isSome ↔ IsPattern text ∧ WithinLimits text := by
  unfold compile? IsPattern WithinLimits
  rw [Term.read?_eq_filter]
  cases Term.spelled? text with
  | none => simp
  | some term =>
      cases hmeaning : term.meaning? with
      | none => simp [hmeaning]
      | some expr =>
          have hprogram := Expr.isSome_program? expr
          by_cases hnesting : term.nesting ≤ maxNesting
          · cases hsome : expr.program? <;> rw [hsome] at hprogram <;>
              simp [Option.filter_some, hnesting, hmeaning, hsome] <;> simpa using hprogram
          · simp [Option.filter_some, hnesting, hmeaning]

/-! ## What is read of a text -/

namespace Reader

variable {α β : Type}

/-- The reader stops at the end of the text or at a parenthesis. -/
def Stops (reader : Reader α) : Prop :=
  ∀ state value after, reader.run state = some (value, after) →
    after.rest = [] ∨ ∃ text, after.rest = ')' :: text

theorem stops_failure : Stops (failure : Reader α) := by
  intro state value after hrun
  cases hrun

/-- The last reader stops there. -/
theorem stops_then {reader : Reader α} {next : α → Reader β} (hnext : ∀ value, Stops (next value)) :
    Stops (reader >>= next) := by
  intro state value after hrun
  obtain ⟨inner, between, -, hrun⟩ := run_bind_eq_some hrun
  exact hnext inner _ _ _ hrun

/-- A pattern, or what stands in a group, ends at the end of the text or at a parenthesis. -/
theorem stops_body (rounds : Nat) (branches parts : List Term) :
    Stops (body rounds branches parts) := by
  induction rounds generalizing branches parts with
  | zero => exact stops_failure
  | succ rounds ih =>
      rw [body_succ]
      refine stops_then fun _ state term after hrun => ?_
      rw [run_get_bind] at hrun
      have hstep (reader : Reader Term) (hreader : Stops reader)
          (hrun : reader.run state = some (term, after)) :
          after.rest = [] ∨ ∃ text, after.rest = ')' :: text :=
        hreader _ _ _ hrun
      generalize htext : state.rest = text at hrun
      revert hrun
      fun_cases bodyStep rounds branches parts text
      · rintro ⟨⟩
        exact .inl htext
      · rintro ⟨⟩
        exact .inr ⟨_, htext⟩
      case case4 =>
        refine hstep _ (stops_then fun _ => stops_then fun opening => ?_)
        cases opening with
        | directive settings => exact stops_then fun _ => ih _ _
        | group settings => exact stops_then fun _ => stops_then fun _ => ih _ _
        | capture index => exact stops_then fun _ => ih _ _
      case case6 | case7 | case8 =>
        exact hstep _ (stops_then fun _ => stops_then fun _ => stops_then fun _ => ih _ _)
      case case9 => exact hstep _ (stops_then fun _ => stops_then fun _ => ih _ _)
      all_goals exact hstep _ (stops_then fun _ => ih _ _)

end Reader

/-- A text spells what is read of it in enough rounds, if that is all of it. -/
theorem Term.spelled?_eq_some_iff {text : List Char} {term : Term} {rounds : Nat}
    (hrounds : text.length < rounds) : Term.spelled? text = some term ↔
      ∃ after, (Reader.body rounds [] []).run ⟨text, false, 0, []⟩ = some (term, after) ∧
        after.rest = [] := by
  have hbound := Reader.ignoresBound_body [] [] ⟨text, false, 0, []⟩ (text.length + 1) rounds
    (Nat.lt_succ_self _) hrounds
  rw [← hbound, Term.spelled?]
  cases (Reader.body (text.length + 1) [] []).run ⟨text, false, 0, []⟩ with
  | none => simp
  | some result =>
      obtain ⟨other, after⟩ := result
      show (if after.rest.isEmpty then some other else none) = some term ↔ _
      rw [Option.ite_none_right_eq_some, List.isEmpty_iff]
      constructor
      · rintro ⟨hempty, ⟨⟩⟩
        exact ⟨after, rfl, hempty⟩
      · rintro ⟨_, ⟨⟩, hempty⟩
        exact ⟨hempty, rfl⟩

/-! ## The group around a text -/

/-- A text in the group that is not to match but at the start. -/
def wrapped (text : List Char) : List Char := ['^', '(', '?', ':'] ++ text ++ [')']

/-- The term is a group around another one, repeated perhaps. -/
inductive Wraps (inner : Term) : Term → Prop where
  | group : Wraps inner (.group [] inner)
  | repetition (low : Nat) (high : Option Nat) (greedy : Bool) {body : Term}
      (hbody : Wraps inner body) : Wraps inner (.repetition low high greedy body)

/-- The first branch begins with `^` and a group around a term, repeated perhaps. -/
def Led (inner : Term) (branches parts : List Term) : Prop :=
  ∃ part rest, Wraps inner part ∧
    (branches = [] ∧ parts = .assertion .lineStart :: part :: rest ∨
      ∃ others, branches = .concat (.assertion .lineStart :: part :: rest) :: others)

theorem carried_led (inner : Term) : Reader.Carried (Led inner) where
  append branches parts hled part := by
    obtain ⟨group, rest, hwraps, ⟨rfl, rfl⟩ | ⟨others, rfl⟩⟩ := hled
    · exact ⟨group, rest ++ [part], hwraps, .inl ⟨rfl, rfl⟩⟩
    · exact ⟨group, rest, hwraps, .inr ⟨others, rfl⟩⟩
  repeatLast branches parts hled low high greedy := by
    intro state repeated after hrun
    rw [Reader.repeatLast.eq_def] at hrun
    split at hrun
    · cases hrun
    · cases hrun
    rename_i last _ hlast
    cases hrun
    obtain ⟨group, rest, hwraps, ⟨rfl, rfl⟩ | ⟨others, rfl⟩⟩ := hled
    · obtain rfl | ⟨front, rear, rfl⟩ := List.eq_nil_or_concat rest
      -- The group itself is repeated, or a part after it.
      · obtain rfl : group = last := by simpa using hlast
        exact ⟨_, [], hwraps.repetition low high greedy, .inl ⟨rfl, rfl⟩⟩
      · refine ⟨group, front ++ [.repetition low high greedy last], hwraps, .inl ⟨rfl, ?_⟩⟩
        rw [List.concat_eq_append, ← List.cons_append, ← List.cons_append, List.dropLast_concat]
        rfl
    · exact ⟨group, rest, hwraps, .inr ⟨others, rfl⟩⟩
  branch branches parts hled := by
    obtain ⟨group, rest, hwraps, ⟨rfl, rfl⟩ | ⟨others, rfl⟩⟩ := hled
    · exact ⟨group, rest, hwraps, .inr ⟨[], rfl⟩⟩
    · exact ⟨group, rest, hwraps, .inr ⟨others ++ [.sequence parts], rfl⟩⟩

section

variable [Properties]

/-- What a group is around has a meaning in the modes in which the group has one. -/
theorem Wraps.isSome_meaningIn {inner part : Term} (hwraps : Wraps inner part) {modes : Modes}
    (hpart : (part.meaningIn modes).isSome) : (inner.meaningIn modes).isSome := by
  induction hwraps with
  | group =>
      have hmodes : modes.apply [] = modes := rfl
      rw [Term.meaningIn, hmodes] at hpart
      cases hinner : inner.meaningIn modes with
      | some result => rfl
      | none =>
          rw [hinner] at hpart
          cases hpart
  | repetition low high greedy hbody ih =>
      rename_i body
      refine ih ?_
      rw [Term.meaningIn] at hpart
      cases hmeaning : body.meaningIn modes with
      | some result => rfl
      | none =>
          rw [hmeaning] at hpart
          cases hpart

/-- No flag is set in front of the group, so that it is around a text with a meaning of its own. -/
theorem Led.isSome_meaning? {inner : Term} {branches parts : List Term}
    (hled : Led inner branches parts) (hjoin : (Reader.join branches parts).meaning?.isSome) :
    inner.meaning?.isSome := by
  obtain ⟨part, rest, hwraps, hled⟩ := hled
  rw [Term.meaning?, Option.isSome_map] at hjoin ⊢
  have hconcat (hbranch : ((Term.concat (.assertion .lineStart :: part :: rest)).meaningIn
      .initial).isSome) : (inner.meaningIn .initial).isSome := by
    refine hwraps.isSome_meaningIn ?_
    cases hpart : part.meaningIn .initial with
    | some result => rfl
    | none => simp [Term.meaningIn, Term.meaningsIn, hpart] at hbranch
  obtain ⟨rfl, rfl⟩ | ⟨others, rfl⟩ := hled
  · exact hconcat hjoin
  · refine hconcat ?_
    replace hjoin : ((Term.alternation (.concat (.assertion .lineStart :: part :: rest) ::
        (others ++ [.sequence parts]))).meaningIn .initial).isSome := hjoin
    rw [Term.meaningIn, Term.meaningsIn] at hjoin
    cases hbranch : (Term.concat (.assertion .lineStart :: part :: rest)).meaningIn .initial with
    | some result => rfl
    | none =>
        rw [hbranch] at hjoin
        cases hjoin

end

/-- A group that has begun after `^` is closed by a parenthesis, and what follows is read on. -/
theorem run_bodyAfterCaret_eq_some_iff {rounds : Nat} {state last : Reading} {term : Term} :
    (Reader.bodyAfterCaret rounds).run state = some (term, last) ↔
      ∃ inner after rest, (Reader.body rounds [] []).run state = some (inner, after) ∧
        after.rest = ')' :: rest ∧
        (Reader.body rounds [] [.assertion .lineStart, .group [] inner]).run
          { after with rest := rest, verbose := false } = some (term, last) := by
  constructor
  · intro hrun
    obtain ⟨inner, after, hinner, hrun⟩ := Reader.run_bind_eq_some hrun
    obtain ⟨closes, closed, hclosed, hrun⟩ := Reader.run_bind_eq_some hrun
    rw [Reader.run_eat] at hclosed
    split at hclosed
    · rename_i hstarts
      obtain ⟨rest, hrest⟩ := List.isPrefixOf_iff_prefix.1 hstarts
      cases hclosed
      refine ⟨inner, after, rest, hinner, hrest.symm, ?_⟩
      rw [← hrest] at hrun
      exact hrun
    · cases hclosed
      cases hrun
  · rintro ⟨inner, after, rest, hinner, hrest, hrun⟩
    rw [Reader.bodyAfterCaret, StateT.run_bind, hinner, Option.bind_eq_bind, Option.bind_some,
      StateT.run_bind, Reader.run_eat, hrest]
    exact hrun

/-- What a text in the group spells begins with what is read up to the closing parenthesis. -/
theorem Term.spelled?_wrapped {text : List Char} {term : Term} :
    Term.spelled? (wrapped text) = some term ↔
      ∃ inner after rest last,
        (Reader.body (text.length + 4) [] []).run ⟨text ++ [')'], false, 0, []⟩ =
          some (inner, after) ∧
        after.rest = ')' :: rest ∧
        (Reader.body (text.length + 4) [] [.assertion .lineStart, .group [] inner]).run
          { after with rest := rest, verbose := false } = some (term, last) ∧
        last.rest = [] := by
  have hlength : (wrapped text).length < text.length + 4 + 2 := by
    simp [wrapped]
  rw [Term.spelled?_eq_some_iff hlength]
  have hcaret : (Reader.body (text.length + 4 + 2) [] []).run ⟨wrapped text, false, 0, []⟩ =
      (Reader.bodyAfterCaret (text.length + 4)).run ⟨text ++ [')'], false, 0, []⟩ :=
    Reader.run_body_caret _ _
  simp only [hcaret, run_bodyAfterCaret_eq_some_iff]
  constructor
  · rintro ⟨last, ⟨inner, after, rest, hinner, hrest, hrun⟩, hlast⟩
    exact ⟨inner, after, rest, last, hinner, hrest, hrun, hlast⟩
  · rintro ⟨inner, after, rest, last, hinner, hrest, hrun, hlast⟩
    exact ⟨last, ⟨inner, after, rest, hinner, hrest, hrun⟩, hlast⟩

/-- Where a text is closed by the parenthesis behind it, the group is all that is spelled. -/
theorem Term.spelled?_wrapped_of_closed {text : List Char} {inner : Term} {after : Reading}
    (hrun : (Reader.body (text.length + 4) [] []).run ⟨text ++ [')'], false, 0, []⟩ =
      some (inner, after)) (hafter : after.rest = [')']) :
    Term.spelled? (wrapped text) = some (.concat [.assertion .lineStart, .group [] inner]) :=
  Term.spelled?_wrapped.2 ⟨inner, after, [], { after with rest := [], verbose := false }, hrun,
    hafter, rfl, rfl⟩

section

variable [Properties]

theorem isSome_meaning?_group (inner : Term) :
    (Term.concat [.assertion .lineStart, .group [] inner]).meaning?.isSome =
      inner.meaning?.isSome := by
  have hmodes : Modes.initial.apply [] = .initial := rfl
  rw [Term.meaning?, Term.meaning?, Option.isSome_map, Option.isSome_map]
  cases hinner : inner.meaningIn .initial <;>
    simp [Term.meaningIn, Term.meaningsIn, hmodes, hinner]

/-- A pattern stays one in the group, unless a parenthesis behind it is a part of it: a comment is
open at its end. -/
theorem IsPattern.wrapped_iff {text : List Char} (hpattern : IsPattern text) :
    IsPattern (wrapped text) ↔ ¬ IsPattern (text ++ [')']) := by
  obtain ⟨term, hterm, hmeaning⟩ := isPattern_iff.1 hpattern
  have hrounds : text.length < text.length + 4 := by omega
  have hlonger : (text ++ [')']).length < text.length + 4 := by simp
  obtain ⟨after, hrun, hend⟩ := (Term.spelled?_eq_some_iff hrounds).1 hterm
  have halike := (Reader.stable_body [] (text.length + 4) [] []).alike ⟨text, false, 0, []⟩
  rw [hrun] at halike
  generalize hclosed : (Reader.body (text.length + 4) [] []).run
    (Reading.closedBy [] ⟨text, false, 0, []⟩) = outcome at halike
  cases halike with
  -- The parenthesis is left to the group.
  | same =>
      have hafter : (after.closedBy []).rest = [')'] := by
        rw [Reading.rest_closedBy, hend]
        rfl
      have hgroup := Term.spelled?_wrapped_of_closed hclosed hafter
      have hpattern : IsPattern (wrapped text) := by
        refine isPattern_iff.2 ⟨_, hgroup, ?_⟩
        rw [isSome_meaning?_group]
        exact hmeaning
      have hnot : ¬ IsPattern (text ++ [')']) := fun hpattern => by
        obtain ⟨other, hother, -⟩ := isPattern_iff.1 hpattern
        obtain ⟨last, hlast, hnil⟩ := (Term.spelled?_eq_some_iff hlonger).1 hother
        cases hclosed.symm.trans hlast
        rw [hafter] at hnil
        cases hnil
      exact iff_of_true hpattern hnot
  -- It is a part of a comment, and the group is not closed.
  | overrun _ _ _ _ _ hsame =>
      have hclosed := hclosed.trans (hsame rfl)
      have hspelled := (Term.spelled?_eq_some_iff hlonger).2 ⟨after, hclosed, hend⟩
      have hpattern : IsPattern (text ++ [')']) := isPattern_iff.2 ⟨term, hspelled, hmeaning⟩
      have hnot : ¬ IsPattern (wrapped text) := fun hwrapped => by
        obtain ⟨other, hother, -⟩ := isPattern_iff.1 hwrapped
        obtain ⟨inner, between, rest, last, hinner, hrest, -⟩ := Term.spelled?_wrapped.1 hother
        cases hclosed.symm.trans hinner
        rw [hend] at hrest
        cases hrest
      exact iff_of_false hnot (not_not_intro hpattern)

omit [Properties] in
/-- What is read up to a parenthesis is read without it, and is all that there is then. -/
theorem run_body_of_closing {rounds : Nat} {outer : List Char} {state after : Reading} {term : Term}
    (hrun : (Reader.body rounds [] []).run (state.closedBy outer) = some (term, after))
    (hafter : after.rest = ')' :: outer) :
    ∃ last, (Reader.body rounds [] []).run state = some (term, last) ∧ last.rest = [] := by
  have halike := (Reader.stable_body outer rounds [] []).alike state
  rw [hrun] at halike
  -- Nothing that is past the parenthesis leaves it to be read.
  have hnot : ¬ Reader.Within outer 0 term after := fun hwithin => by
    rw [Reader.Within, hafter, List.length_cons] at hwithin
    omega
  generalize (Reader.body rounds [] []).run state = shorter at halike
  cases halike with
  | same _ last =>
      rw [Reading.rest_closedBy] at hafter
      exact ⟨last, rfl, List.append_left_eq_self.1 hafter⟩
  | past _ _ hpast => exact absurd hpast hnot
  | overrun _ _ _ _ hpast => exact absurd (hpast _ _ rfl) hnot

/-- In a group, what is no pattern becomes one only by closing the group after a pattern. -/
theorem IsPattern.exists_closing {text : List Char} (hwrapped : IsPattern (wrapped text))
    (hpattern : ¬ IsPattern text) :
    ∃ inner outer, text = inner ++ ')' :: outer ∧ IsPattern inner := by
  obtain ⟨term, hterm, hmeaning⟩ := isPattern_iff.1 hwrapped
  obtain ⟨inner, after, rest, last, hinner, hafter, hlast, -⟩ := Term.spelled?_wrapped.1 hterm
  -- What stands in the group has a meaning by itself.
  have hled : Led inner [] [.assertion .lineStart, .group [] inner] :=
    ⟨_, [], .group, .inl ⟨rfl, rfl⟩⟩
  obtain ⟨_, _, hled, rfl⟩ := (carried_led inner).yields_body _ hled _ _ _ hlast
  have hmeaning := hled.isSome_meaning? hmeaning
  have halike := (Reader.stable_body [] (text.length + 4) [] []).alike ⟨text, false, 0, []⟩
  have hclosed : (Reader.body (text.length + 4) [] []).run
      (Reading.closedBy [] ⟨text, false, 0, []⟩) = some (inner, after) := hinner
  rw [hclosed] at halike
  generalize htext : (Reader.body (text.length + 4) [] []).run ⟨text, false, 0, []⟩ = shorter
    at halike
  cases halike with
  | same _ between =>
      obtain hend | ⟨outer, hbetween⟩ := Reader.stops_body _ _ _ _ _ _ htext
      · have hrounds : text.length < text.length + 4 := by omega
        have hspelled := (Term.spelled?_eq_some_iff hrounds).2 ⟨between, htext, hend⟩
        exact absurd (isPattern_iff.2 ⟨inner, hspelled, hmeaning⟩) hpattern
      · obtain ⟨front, hfront⟩ := (Reader.shrinks_body _ _ _).isSuffix htext
        rw [hbetween] at hfront
        obtain rfl : front ++ ')' :: outer = text := hfront
        have hfront : (Reader.body _ [] []).run (Reading.closedBy outer ⟨front, false, 0, []⟩) =
            some (inner, between) := htext
        obtain ⟨last, hrun, hend⟩ := run_body_of_closing hfront hbetween
        have hrounds : front.length < (front ++ ')' :: outer).length + 4 := by
          rw [List.length_append]
          omega
        have hspelled := (Term.spelled?_eq_some_iff hrounds).2 ⟨last, hrun, hend⟩
        exact ⟨front, outer, rfl, isPattern_iff.2 ⟨inner, hspelled, hmeaning⟩⟩
  | past _ _ hpast =>
      rw [Reader.Within, hafter] at hpast
      cases hpast
  | overrun _ _ _ hend _ hsame =>
      cases hsame rfl
      rw [hend] at hafter
      cases hafter

end

end Pattern

namespace Rule

open Pattern (IsPattern Properties WithinLimits)

/-- A rule is made exactly if its pattern in a group is one, within the limits. -/
theorem compile_isOk_iff [Properties] (name : Option Kind) (source : String)
    (reaction : RuleMatch → Emit) :
    (∃ rule, compile name source reaction = .ok rule) ↔
      IsPattern (anchored source) ∧ WithinLimits (anchored source) := by
  rw [← Pattern.isSome_compile?_iff, compile]
  cases Pattern.compile? (anchored source) <;> simp

/-- Limits aside, a pattern makes a rule unless a parenthesis behind it would be a part of it, which
is in a comment then. What is no pattern makes none unless it has a parenthesis that closes the
group around it, after what is a pattern. The error names the rule, or else gives its pattern. -/
theorem compile_iff_isPattern [Properties] (name : Option Kind) (source : String)
    (reaction : RuleMatch → Emit) (hlimits : WithinLimits (anchored source)) :
    (IsPattern source.toList →
      ((∃ rule, compile name source reaction = .ok rule) ↔
        ¬ IsPattern (source.toList ++ [')']))) ∧
    (¬ IsPattern source.toList → (∃ rule, compile name source reaction = .ok rule) →
      ∃ inner outer, source.toList = inner ++ ')' :: outer ∧ IsPattern inner) ∧
    ((¬ ∃ rule, compile name source reaction = .ok rule) →
      compile name source reaction = .error ⟨(name.map Kind.name).getD source⟩) := by
  have hwrapped : anchored source = Pattern.wrapped source.toList := rfl
  rw [compile_isOk_iff, and_iff_left hlimits, hwrapped]
  refine ⟨fun hpattern => hpattern.wrapped_iff, fun hpattern hwrapped => ?_, fun hnot => ?_⟩
  · exact hwrapped.exists_closing hpattern
  · rw [compile]
    cases hcompile : Pattern.compile? (anchored source) with
    | none => rfl
    | some pattern =>
        have hsome : (Pattern.compile? (anchored source)).isSome := by rw [hcompile]; rfl
        exact absurd ((Pattern.isSome_compile?_iff _).1 hsome).1 hnot

/-- A pattern makes a rule; one that ends with a comment makes none; and what is no pattern makes
one where it closes the group around it. -/
theorem compile_iff_isPattern_group :
    (∃ rule, compile none "(a|b)+" (fun _ => .nothing) = .ok rule) ∧
    (IsPattern "(?x)a#b".toList ∧
      compile none "(?x)a#b" (fun _ => .nothing) = .error ⟨"(?x)a#b"⟩) ∧
    (¬ IsPattern "a)|(?:b".toList ∧
      (∃ rule, compile none "a)|(?:b" (fun _ => .nothing) = .ok rule) ∧
      ∃ inner outer, "a)|(?:b".toList = inner ++ ')' :: outer ∧ IsPattern inner) := by
  have hgroup := compile_iff_isPattern none "(a|b)+" (fun _ => .nothing) (by decide +kernel)
  have hcomment := compile_iff_isPattern none "(?x)a#b" (fun _ => .nothing) (by decide +kernel)
  have hclosing := compile_iff_isPattern none "a)|(?:b" (fun _ => .nothing) (by decide +kernel)
  have hrule : ∃ rule, compile none "a)|(?:b" (fun _ => .nothing) = .ok rule :=
    (compile_isOk_iff _ _ _).2 (by decide +kernel)
  have hpattern : IsPattern "(?x)a#b".toList := by decide +kernel
  have hnone : ¬ IsPattern "a)|(?:b".toList := by decide +kernel
  refine ⟨(hgroup.1 (by decide +kernel)).2 (by decide +kernel), ⟨hpattern, hcomment.2.2 ?_⟩,
    hnone, hrule, hclosing.2.1 hnone hrule⟩
  rw [hcomment.1 hpattern]
  decide +kernel

end Rule

end TokenTree
