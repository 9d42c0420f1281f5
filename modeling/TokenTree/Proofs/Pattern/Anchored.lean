import TokenTree.Pattern
import TokenTree.Proofs.Pattern.Parts

/-!
# Patterns that match at the start only

A pattern that is put into a group after `^` is meant to match where the text begins. The group does
that for a pattern that keeps its parentheses in pairs. One that does not can close the group and
then be read as an alternation, of which `^` has only the first branch. `yields_body` says that
nothing else can happen: what is read from the group on is an alternation, or a sequence that begins
with `^`. A match of such a sequence has nothing before it.
-/

namespace TokenTree.Pattern

/-- The term is an alternation. -/
def Term.isAlternation : Term → Bool
  | .alternation _ => true
  | _ => false

namespace Reader

variable {α β : Type}

/-! ## What a reader can give -/

/-- The reader gives values with the property only, whatever it starts from. -/
def Yields (reader : Reader α) (post : α → Prop) : Prop :=
  ∀ state value after, reader.run state = some (value, after) → post value

/-- A reader that reads nothing gives its value. -/
theorem yields_pure {post : α → Prop} {value : α} (hvalue : post value) :
    Yields (pure value) post := by
  intro state other after hrun
  obtain ⟨rfl, -⟩ : value = other ∧ state = after := by simpa using hrun
  exact hvalue

/-- A reader that fails gives nothing. -/
theorem yields_failure {post : α → Prop} : Yields (failure : Reader α) post := by
  intro state value after hrun
  cases hrun

/-- A sequence of readers, by way of what the first one gives. -/
theorem yields_bind {reader : Reader α} {next : α → Reader β} {middle : α → Prop} {post : β → Prop}
    (hfirst : Yields reader middle) (hnext : ∀ value, middle value → Yields (next value) post) :
    Yields (reader >>= next) post := by
  intro state value after hrun
  rw [StateT.run_bind] at hrun
  obtain ⟨⟨inner, between⟩, hinner, hrest⟩ := Option.bind_eq_some_iff.1 hrun
  exact hnext inner (hfirst _ _ _ hinner) _ _ _ hrest

/-- A sequence of readers of which the first may give anything. -/
theorem yields_then {reader : Reader α} {next : α → Reader β} {post : β → Prop}
    (hnext : ∀ value, Yields (next value) post) : Yields (reader >>= next) post := by
  have hfirst : Yields reader fun _ => True := fun _ _ _ _ => trivial
  exact yields_bind hfirst fun value _ => hnext value

/-! ## The shape of what is read -/

variable {first : Term} {branches parts : List Term}

/-- The term is an alternation, or a sequence that begins with the given term and goes on. -/
def Heads (first term : Term) : Prop :=
  term.isAlternation = true ∨ ∃ rest, term = .concat (first :: rest)

/-- What is read so far is past the first branch, or the branch at hand begins with the given term
and goes on. -/
def Begun (first : Term) (branches parts : List Term) : Prop :=
  branches ≠ [] ∨ ∃ next rest, parts = first :: next :: rest

/-- At the end of a group the parts read so far are put together. -/
theorem Begun.join (hbegun : Begun first branches parts) : Heads first (join branches parts) := by
  cases branches with
  | cons branch rest => exact .inl rfl
  | nil =>
      obtain hne | ⟨next, rest, rfl⟩ := hbegun
      · exact absurd rfl hne
      · exact .inr ⟨next :: rest, rfl⟩

/-- Parts that are read later come last. -/
theorem Begun.append (hbegun : Begun first branches parts) (part : Term) :
    Begun first branches (parts ++ [part]) := by
  obtain hne | ⟨next, rest, rfl⟩ := hbegun
  · exact .inl hne
  · exact .inr ⟨next, rest ++ [part], rfl⟩

/-- A repetition takes the last part, which is not the first. -/
theorem Begun.repeatLast (hbegun : Begun first branches parts) (low : Nat) (high : Option Nat)
    (greedy : Bool) : Yields (repeatLast parts low high greedy) (Begun first branches) := by
  -- Two parts at least are there, so the first one is not among what is dropped.
  have hparts (last : Term) : Begun first branches (parts.dropLast ++ [last]) := by
    obtain hne | ⟨next, rest, rfl⟩ := hbegun
    · exact .inl hne
    · rw [List.dropLast_cons_of_ne_nil (List.cons_ne_nil next rest)]
      cases (next :: rest).dropLast with
      | nil => exact .inr ⟨last, [], rfl⟩
      | cons second others => exact .inr ⟨second, others ++ [last], rfl⟩
  rw [Reader.repeatLast.eq_def]
  split
  · exact yields_failure
  · exact yields_failure
  · exact yields_pure (hparts _)

/-- A property of the branches and parts read so far that all further reading keeps. -/
structure Carried (good : List Term → List Term → Prop) : Prop where
  append : ∀ branches parts, good branches parts → ∀ part, good branches (parts ++ [part])
  repeatLast : ∀ branches parts, good branches parts → ∀ low high greedy,
    Yields (repeatLast parts low high greedy) (good branches)
  branch : ∀ branches parts, good branches parts → good (branches ++ [.sequence parts]) []

/-- What is read up to the end of a group is put together from branches and parts that have the
property. -/
theorem Carried.yields_body {good : List Term → List Term → Prop} (hcarried : Carried good)
    (rounds : Nat) (hgood : good branches parts) :
    Yields (body rounds branches parts) fun term =>
      ∃ branches parts, good branches parts ∧ term = Reader.join branches parts := by
  induction rounds generalizing branches parts with
  | zero => exact yields_failure
  | succ rounds ih =>
      have hpart (part : Term) := ih (hcarried.append _ _ hgood part)
      have hrepeat (low : Nat) (high : Option Nat) (greedy : Bool) :=
        yields_bind (hcarried.repeatLast _ _ hgood low high greedy) fun _ hparts => ih hparts
      rw [body_succ]
      refine yields_then fun _ => yields_then fun state => ?_
      fun_cases bodyStep rounds branches parts state.rest
      · exact yields_pure ⟨_, _, hgood, rfl⟩
      · exact yields_pure ⟨_, _, hgood, rfl⟩
      · exact yields_then fun _ => ih (hcarried.branch _ _ hgood)
      · refine yields_then fun state => yields_then fun opening => ?_
        cases opening with
        | directive settings => exact yields_then fun _ => hpart _
        | group settings => exact yields_then fun _ => yields_then fun inner => hpart _
        | capture index => exact yields_then fun inner => hpart _
      · exact yields_then fun _ => hpart _
      iterate 3 exact yields_then fun _ => yields_then fun _ => hrepeat _ _ _
      · exact yields_then fun _ => hrepeat _ _ _
      · exact yields_then fun single => hpart _
      all_goals exact yields_then fun _ => hpart _

/-- Once a branch has begun, it keeps its first part or another branch begins. -/
theorem carried_begun (first : Term) : Carried (Begun first) where
  append _ _ hbegun := hbegun.append
  repeatLast _ _ hbegun := hbegun.repeatLast
  branch _ _ _ := .inl (by simp)

/-- Once a branch has begun, all that is read up to the end of its group keeps its first part or
begins another branch. -/
theorem yields_body (rounds : Nat) (hbegun : Begun first branches parts) :
    Yields (body rounds branches parts) (Heads first) := by
  intro state term after hrun
  obtain ⟨_, _, hbegun, rfl⟩ := (carried_begun first).yields_body rounds hbegun _ _ _ hrun
  exact hbegun.join

/-- The rest of a group that has begun after `^`, and what stands after the group. -/
def bodyAfterCaret (rounds : Nat) : Reader Term := do
  let inner ← body rounds [] []
  if !(← eat [')']) then failure
  modify fun state => { state with verbose := false }
  body rounds [] [.assertion .lineStart, .group [] inner]

/-- From the start of the text on, `^` and the opening of the group are read first. -/
theorem run_body_caret (rounds : Nat) (text : List Char) :
    (body (rounds + 2) [] []).run ⟨'^' :: '(' :: '?' :: ':' :: text, false, 0, []⟩ =
      (bodyAfterCaret rounds).run ⟨text, false, 0, []⟩ := rfl

/-- The group is the second part of a branch that begins with `^`. -/
theorem yields_bodyAfterCaret (rounds : Nat) :
    Yields (bodyAfterCaret rounds) (Heads (.assertion .lineStart)) := by
  refine yields_then fun inner => yields_then fun closed => ?_
  have hbegun : Begun (.assertion .lineStart) [] [.assertion .lineStart, .group [] inner] :=
    .inr ⟨_, _, rfl⟩
  split
  · exact yields_then fun _ => yields_then fun _ => yields_body rounds hbegun
  · exact yields_then fun _ => yields_body rounds hbegun

end Reader

/-- A pattern that is put into a group after `^` is read as an alternation or begins with `^`. -/
theorem Term.heads_of_read? {source : List Char} {term : Term}
    (hread : Term.read? (['^', '(', '?', ':'] ++ source) = some term) :
    Reader.Heads (.assertion .lineStart) term := by
  obtain ⟨⟨read, after⟩, hrun, hterm⟩ := Option.bind_eq_some_iff.1 hread
  obtain ⟨-, hsame⟩ := Option.ite_none_right_eq_some.1 hterm
  cases hsame
  have hrounds : (['^', '(', '?', ':'] ++ source).length + 1 = source.length + 3 + 2 := rfl
  rw [hrounds] at hrun
  exact Reader.yields_bodyAfterCaret _ _ _ _ ((Reader.run_body_caret _ source).symm.trans hrun)

/-! ## What is searched for -/

namespace Expr

/-- A sequence that begins with the start of the text matches nowhere else. -/
theorem isAnchored_sequence (exprs : List Expr) :
    (sequence (.look .textStart :: exprs)).isAnchored = true := by
  have hparts : ((look .textStart :: exprs).flatMap parts).foldr prepend [] =
      look .textStart :: (exprs.flatMap parts).foldr prepend [] := rfl
  rw [sequence, hparts]
  cases (exprs.flatMap parts).foldr prepend [] <;> rfl

/-- The program of an expression knows whether that is anchored. -/
theorem anchored_program? {expr : Expr} {program : Program}
    (hprogram : expr.program? = some program) : program.anchored = expr.isAnchored := by
  rw [program?] at hprogram
  split at hprogram
  · cases hprogram
    rfl
  · cases hprogram

end Expr

variable [Properties]

/-- What begins with `^` means an expression that begins with the start of the text, since no flag
is set before it. -/
theorem Term.isAnchored_meaning? {rest : List Term} {expr : Expr}
    (hmeaning : (Term.concat (.assertion .lineStart :: rest)).meaning? = some expr) :
    expr.isAnchored = true := by
  rw [meaning?, Option.map_eq_some_iff] at hmeaning
  obtain ⟨⟨_, modes⟩, hmeaning, rfl⟩ := hmeaning
  simp only [meaningIn, meaningsIn] at hmeaning
  obtain ⟨⟨exprs, _⟩, hexprs, hsequence⟩ := Option.bind_eq_some_iff.1 hmeaning
  obtain ⟨⟨head, _⟩, hhead, htail⟩ := Option.bind_eq_some_iff.1 hexprs
  obtain ⟨⟨tail, _⟩, -, hcons⟩ := Option.bind_eq_some_iff.1 htail
  cases hhead
  cases hcons
  cases hsequence
  exact Expr.isAnchored_sequence tail

omit [Properties] in
/-- A program that is anchored is tried at one place only. -/
theorem Program.searchFrom?_of_anchored {program : Program} (hanchored : program.anchored = true)
    {before : Option Char} {text : List Char} {place start : Nat} {hit : Hit}
    (hsearch : program.searchFrom? before text place = some (start, hit)) : start = place := by
  rw [searchFrom?.eq_def] at hsearch
  split at hsearch
  · cases hsearch
    rfl
  · rw [if_pos hanchored] at hsearch
    cases hsearch

/-- A pattern in a group after `^` that is not read as an alternation matches at the start only. -/
theorem before_eq_nil_of_search? {source : List Char} {pattern : Pattern}
    (hcompile : compile? (['^', '(', '?', ':'] ++ source) = some pattern)
    (hcontained : (Term.read? (['^', '(', '?', ':'] ++ source)).any Term.isAlternation = false)
    {text : List Char} {found : Found text} (hsearch : pattern.search? text = some found) :
    found.before = [] := by
  obtain ⟨term, hterm, hcompile⟩ := Option.bind_eq_some_iff.1 hcompile
  obtain ⟨expr, hexpr, hcompile⟩ := Option.bind_eq_some_iff.1 hcompile
  obtain ⟨program, hprogram, hpattern⟩ := Option.bind_eq_some_iff.1 hcompile
  cases hpattern
  rw [hterm, Option.any_some] at hcontained
  -- The only way not to begin with `^` is ruled out.
  obtain halternation | ⟨rest, rfl⟩ := Term.heads_of_read? hterm
  · rw [hcontained] at halternation
    cases halternation
  have hanchored : program.anchored = true := by
    rw [Expr.anchored_program? hprogram, Term.isAnchored_meaning? hexpr]
  rw [search?, Program.search?, Option.map_eq_some_iff] at hsearch
  obtain ⟨⟨start, hit⟩, hfrom, rfl⟩ := hsearch
  obtain rfl := Program.searchFrom?_of_anchored hanchored hfrom
  rfl

end TokenTree.Pattern
