import TokenTree.Proofs.Pattern.Parts

/-!
# What readers consume

What a reader leaves is an end of the text that it was given. `Shrinks` also counts the characters
that it passes over at least; there is one lemma for each part of the reader. A reader that looks
ahead gives back what it has read in vain, and nothing else.
-/

namespace TokenTree.Pattern.Reader

variable {α β : Type}

/-! ## Readers one after the other -/

/-- The reader leaves an end of the text, shorter by so many characters at least or empty. -/
def Shrinks (least : Nat) (reader : Reader α) : Prop :=
  ∀ state value after, reader.run state = some (value, after) →
    after.rest <:+ state.rest ∧ after.rest.length ≤ state.rest.length - least

theorem Shrinks.isSuffix {least : Nat} {reader : Reader α} (hreader : Shrinks least reader)
    {state after : Reading} {value : α} (hrun : reader.run state = some (value, after)) :
    after.rest <:+ state.rest :=
  (hreader _ _ _ hrun).1

theorem Shrinks.length_le {least : Nat} {reader : Reader α} (hreader : Shrinks least reader)
    {state after : Reading} {value : α} (hrun : reader.run state = some (value, after)) :
    after.rest.length ≤ state.rest.length - least :=
  (hreader _ _ _ hrun).2

/-- Nothing is read after a failure. -/
@[simp] theorem failure_bind (next : α → Reader β) : (failure >>= next : Reader β) = failure := rfl

theorem run_get_bind (next : Reading → Reader β) (state : Reading) :
    (get >>= next : Reader β).run state = (next state).run state := rfl

theorem run_peek?_bind (next : Option Char → Reader β) (state : Reading) :
    (peek? >>= next).run state = (next state.rest.head?).run state := rfl

theorem run_bump_bind (count : Nat) (next : Unit → Reader β) (state : Reading) :
    (bump count >>= next).run state =
      (next ()).run { state with rest := state.rest.drop count } := rfl

/-- A sequence of readers that succeeds is a success of both. -/
theorem run_bind_eq_some {reader : Reader α} {next : α → Reader β} {state after : Reading}
    {value : β} (hrun : (reader >>= next).run state = some (value, after)) :
    ∃ inner between, reader.run state = some (inner, between) ∧
      (next inner).run between = some (value, after) := by
  rw [StateT.run_bind] at hrun
  obtain ⟨⟨inner, between⟩, hinner, hnext⟩ := Option.bind_eq_some_iff.1 hrun
  exact ⟨inner, between, hinner, hnext⟩

/-- Sequences of readers agree if their first readers do and they go on alike from there. -/
theorem run_bind_congr {reader other : Reader α} {next last : α → Reader β} {state : Reading}
    (hfirst : reader.run state = other.run state)
    (hnext : ∀ value after, reader.run state = some (value, after) →
      (next value).run after = (last value).run after) :
    (reader >>= next).run state = (other >>= last).run state := by
  rw [StateT.run_bind, StateT.run_bind, ← hfirst]
  cases hrun : reader.run state with
  | none => rfl
  | some result => exact hnext result.1 result.2 hrun

variable {least : Nat}

theorem shrinks_failure : Shrinks least (failure : Reader α) := by
  intro state value after hrun
  cases hrun

theorem shrinks_pure (value : α) : Shrinks 0 (pure value : Reader α) := by
  intro state other after hrun
  cases hrun
  exact ⟨List.suffix_refl _, Nat.le_refl _⟩

theorem shrinks_get : Shrinks 0 (get : Reader Reading) := by
  intro state other after hrun
  cases hrun
  exact ⟨List.suffix_refl _, Nat.le_refl _⟩

/-- A change of the state that leaves an end of the text. -/
theorem shrinks_modify {change : Reading → Reading}
    (hchange : ∀ state, (change state).rest <:+ state.rest) :
    Shrinks 0 (modify change : Reader Unit) := by
  intro state value after hrun
  cases hrun
  exact ⟨hchange state, (hchange state).length_le⟩

/-- Two readers consume what each of them does. -/
theorem shrinks_bind {first last : Nat} {reader : Reader α} {next : α → Reader β}
    (hfirst : Shrinks first reader) (hnext : ∀ value, Shrinks last (next value)) :
    Shrinks (first + last) (reader >>= next) := by
  intro state value after hrun
  obtain ⟨inner, between, hinner, hrun⟩ := run_bind_eq_some hrun
  obtain ⟨hbetween, hle⟩ := hfirst _ _ _ hinner
  obtain ⟨hafter, hle'⟩ := hnext _ _ _ _ hrun
  exact ⟨hafter.trans hbetween, by omega⟩

/-- The first of two readers consumes enough. -/
theorem shrinks_first {reader : Reader α} {next : α → Reader β} (hfirst : Shrinks least reader)
    (hnext : ∀ value, Shrinks 0 (next value)) : Shrinks least (reader >>= next) :=
  shrinks_bind hfirst hnext

/-- The second of two readers consumes enough. -/
theorem shrinks_then {reader : Reader α} {next : α → Reader β} (hfirst : Shrinks 0 reader)
    (hnext : ∀ value, Shrinks least (next value)) : Shrinks least (reader >>= next) := by
  rw [← Nat.zero_add least]
  exact shrinks_bind hfirst hnext

/-- What consumes more consumes enough. -/
theorem Shrinks.mono {more : Nat} {reader : Reader α} (hreader : Shrinks more reader)
    (hle : least ≤ more) : Shrinks least reader := by
  intro state value after hrun
  obtain ⟨hafter, hlength⟩ := hreader _ _ _ hrun
  exact ⟨hafter, by omega⟩

/-- Whatever it consumes, a reader that consumes something puts nothing back. -/
theorem Shrinks.weaken {reader : Reader α} (hreader : Shrinks least reader) : Shrinks 0 reader :=
  hreader.mono (Nat.zero_le least)

/-! ## The parts of the reader -/

theorem shrinks_peek? : Shrinks 0 peek? := shrinks_first shrinks_get fun _ => shrinks_pure _

theorem shrinks_rounds : Shrinks 0 rounds := shrinks_first shrinks_get fun _ => shrinks_pure _

theorem run_more (state : Reading) :
    more.run state = if state.rest.isEmpty then none else some ((), state) := by
  have hrun : more.run state =
      (if state.rest.isEmpty then failure else pure () : Reader Unit).run state := rfl
  rw [hrun]
  split <;> rfl

theorem shrinks_more : Shrinks 0 more := by
  refine shrinks_first shrinks_get fun state => ?_
  split
  · exact shrinks_failure
  · exact shrinks_pure ()

theorem shrinks_bump (count : Nat) : Shrinks count (bump count) := by
  intro state value after hrun
  cases hrun
  exact ⟨List.drop_suffix _ _, Nat.le_of_eq (List.length_drop ..)⟩

/-- Blanks and comments are passed over, and nothing else happens. -/
theorem skipBlank_suffix (commented : Bool) (text : List Char) :
    skipBlank commented text <:+ text := by
  induction text generalizing commented with
  | nil => cases commented <;> exact List.suffix_refl _
  | cons c rest ih =>
      cases commented with
      | true => exact (ih _).trans (List.suffix_cons c rest)
      | false =>
          rw [skipBlank]
          split
          · exact (ih _).trans (List.suffix_cons c rest)
          · split
            · exact (ih _).trans (List.suffix_cons c rest)
            · exact List.suffix_refl _

theorem shrinks_skipSpace : Shrinks 0 skipSpace := by
  refine shrinks_modify fun state => ?_
  split
  · exact skipBlank_suffix _ _
  · exact List.suffix_refl _

theorem shrinks_advance : Shrinks 1 advance :=
  shrinks_first (shrinks_bump 1) fun _ => shrinks_skipSpace

theorem shrinks_eat (text : List Char) : Shrinks 0 (eat text) := by
  refine shrinks_then shrinks_get fun state => ?_
  split
  · exact shrinks_first (shrinks_bump _).weaken fun _ => shrinks_pure _
  · exact shrinks_pure _

/-- A text is passed over where it stands. -/
theorem run_eat (text : List Char) (state : Reading) : (eat text).run state =
    if text.isPrefixOf state.rest then
      some (true, { state with rest := state.rest.drop text.length })
    else some (false, state) := by
  have hrun : (eat text).run state = (if text.isPrefixOf state.rest then do
      bump text.length
      return true
    else return false : Reader Bool).run state := rfl
  rw [hrun]
  split <;> rfl

theorem shrinks_collect (accept : Char → Bool) (rounds : Nat) :
    Shrinks 0 (collect accept rounds) := by
  induction rounds with
  | zero => exact shrinks_pure _
  | succ rounds ih =>
      rw [collect]
      refine shrinks_first shrinks_peek? fun next => ?_
      split
      · split
        · refine shrinks_first shrinks_advance.weaken fun _ => ?_
          exact shrinks_first ih fun _ => shrinks_pure _
        · exact shrinks_pure _
      · exact shrinks_pure _

theorem shrinks_count : Shrinks 0 count := by
  refine shrinks_first (shrinks_modify fun state => ?_) fun _ => ?_
  · exact List.dropWhile_suffix _
  refine shrinks_first shrinks_rounds fun _ => shrinks_first (shrinks_collect _ _) fun digits => ?_
  refine shrinks_first shrinks_rounds fun _ => shrinks_first (shrinks_collect _ _) fun _ => ?_
  dsimp only
  split
  · exact shrinks_failure
  · exact shrinks_pure _

theorem shrinks_ofCode (code : Nat) : Shrinks 0 (ofCode code) := by
  rw [ofCode]
  split
  · exact shrinks_pure _
  · exact shrinks_failure

/-- Every one of the digits is passed over. -/
theorem shrinks_fixedHex (count : Nat) : Shrinks count (fixedHex count) := by
  induction count with
  | zero => exact shrinks_pure _
  | succ count ih =>
      rw [fixedHex]
      refine shrinks_then shrinks_peek? fun next => ?_
      split
      · dsimp only
        split
        · exact shrinks_failure
        · rw [Nat.add_comm]
          refine shrinks_bind shrinks_advance fun _ => ?_
          exact shrinks_first ih fun _ => shrinks_pure _
      · exact shrinks_failure

theorem shrinks_codePoint (digits : Nat) : Shrinks 1 (codePoint (digits + 1)) := by
  refine shrinks_then shrinks_peek? fun next => ?_
  split
  · refine shrinks_first shrinks_advance fun _ => shrinks_first shrinks_rounds fun _ => ?_
    refine shrinks_first (shrinks_collect _ _) fun code => ?_
    refine shrinks_first shrinks_peek? fun next => ?_
    dsimp only
    split
    · exact shrinks_failure
    · refine shrinks_first shrinks_advance.weaken fun _ => ?_
      exact shrinks_first (shrinks_ofCode _) fun _ => shrinks_pure _
  · refine shrinks_first ((shrinks_fixedHex _).mono (Nat.le_add_left 1 digits)) fun _ => ?_
    exact shrinks_first (shrinks_ofCode _) fun _ => shrinks_pure _

theorem shrinks_hex (digits : Nat) : Shrinks 1 (hex (digits + 1)) := by
  refine shrinks_first shrinks_advance fun _ => shrinks_first shrinks_more fun _ => ?_
  exact (shrinks_codePoint digits).weaken

/-- The brace is passed over in any case. -/
theorem shrinks_untilBrace (rounds : Nat) : Shrinks 1 (untilBrace rounds) := by
  induction rounds with
  | zero => exact shrinks_failure
  | succ rounds ih =>
      rw [untilBrace]
      refine shrinks_then shrinks_peek? fun next => ?_
      split
      · split
        · exact shrinks_first (shrinks_bump 1) fun _ => shrinks_pure _
        · refine shrinks_first shrinks_advance fun _ => ?_
          exact shrinks_first ih.weaken fun _ => shrinks_pure _
      · exact shrinks_failure

theorem shrinks_propertyName : Shrinks 1 propertyName := by
  refine shrinks_first shrinks_advance fun _ => shrinks_first shrinks_peek? fun next => ?_
  split
  · dsimp only
    split
    · exact shrinks_failure
    refine shrinks_first shrinks_advance.weaken fun _ => ?_
    split
    · exact shrinks_first shrinks_rounds fun _ => (shrinks_untilBrace _).weaken
    · exact shrinks_pure _
  · exact shrinks_failure

theorem shrinks_boundaryName : Shrinks 1 boundaryName := by
  refine shrinks_first shrinks_advance fun _ => shrinks_first shrinks_more fun _ => ?_
  exact shrinks_first shrinks_rounds fun _ => shrinks_collect _ _

theorem shrinks_boundaryNamed (name : List Char) : Shrinks 1 (boundaryNamed name) := by
  refine shrinks_then shrinks_peek? fun next => ?_
  dsimp only
  split
  · exact shrinks_failure
  refine shrinks_first (shrinks_bump 1) fun _ => ?_
  split <;> first | exact shrinks_pure _ | exact shrinks_failure

/-- A boundary gives back what it has read in vain. -/
theorem shrinks_boundary : Shrinks 0 boundary := by
  rw [boundary_eq]
  refine shrinks_then shrinks_peek? fun next => ?_
  split
  · exact shrinks_pure _
  intro start condition after hrun
  obtain ⟨_, _, hstart, hrun⟩ := run_bind_eq_some hrun
  cases hstart
  obtain ⟨name, named, hname, hrun⟩ := run_bind_eq_some hrun
  rw [boundaryFrom] at hrun
  split at hrun
  · cases hrun
    exact ⟨List.suffix_refl _, Nat.le_refl _⟩
  · have hread : Shrinks 0 (boundaryName >>= boundaryNamed) :=
      shrinks_first shrinks_boundaryName.weaken fun name => (shrinks_boundaryNamed name).weaken
    refine hread _ condition _ ?_
    rw [StateT.run_bind, hname]
    exact hrun

theorem shrinks_escape : Shrinks 1 escape := by
  refine shrinks_first (shrinks_bump 1) fun _ => shrinks_first shrinks_peek? fun next => ?_
  split
  · split
    · exact (shrinks_hex 1).weaken
    · exact (shrinks_hex 3).weaken
    · exact (shrinks_hex 7).weaken
    iterate 2 exact shrinks_first shrinks_propertyName.weaken fun _ => shrinks_pure _
    · refine shrinks_first (shrinks_bump 1).weaken fun _ => ?_
      split
      · exact shrinks_pure _
      split
      all_goals first
        | exact shrinks_pure _
        | exact shrinks_failure
        | exact shrinks_first shrinks_boundary fun _ => shrinks_pure _
  · exact shrinks_failure

theorem rest_of_posixFrom {start state after : Reading} {negated : Bool}
    {found : Option SetTerm} (hrun : (posixFrom start negated).run state = some (found, after)) :
    found = none ∧ after = start ∨ found.isSome ∧ after.rest <:+ state.rest := by
  obtain ⟨_, _, hget, hrun⟩ := run_bind_eq_some hrun
  cases hget
  obtain ⟨_, named, hnamed, hrun⟩ := run_bind_eq_some hrun
  have hback (state : Reading) (hrun : (do set start; return none : Reader (Option SetTerm)).run
      state = some (found, after)) : found = none ∧ after = start := by
    cases hrun
    exact ⟨rfl, rfl⟩
  dsimp only at hrun
  split at hrun
  · obtain ⟨closes, closed, hclosed, hrun⟩ := run_bind_eq_some hrun
    split at hrun
    · have hafter := ((shrinks_eat _).isSuffix hclosed).trans ((shrinks_bump _).isSuffix hnamed)
      cases hrun
      exact .inr ⟨rfl, hafter⟩
    · exact .inl (hback _ hrun)
  · exact .inl (hback _ hrun)

/-- A named class gives back what it has read in vain, and is not empty. -/
theorem rest_of_posix? {state after : Reading} {found : Option SetTerm}
    (hrun : posix?.run state = some (found, after)) :
    found = none ∧ after = state ∨
      found.isSome ∧ after.rest <:+ state.rest ∧ after.rest.length < state.rest.length := by
  rw [posix?_eq] at hrun
  obtain ⟨_, _, hstart, hrun⟩ := run_bind_eq_some hrun
  cases hstart
  obtain ⟨opens, opened, hopened, hrun⟩ := run_bind_eq_some hrun
  rw [run_eat] at hopened
  split at hopened
  · rename_i hstarts
    have hlength := (List.isPrefixOf_iff_prefix.1 hstarts).length_le
    cases hopened
    obtain ⟨negated, inner, hnegated, hrun⟩ := run_bind_eq_some hrun
    obtain hback | ⟨hfound, hafter⟩ := rest_of_posixFrom hrun
    · exact .inl hback
    · have hafter := hafter.trans ((shrinks_eat _).isSuffix hnegated)
      have hle := hafter.length_le
      simp only [List.length_drop, List.length_cons, List.length_nil] at hlength hle
      exact .inr ⟨hfound, hafter.trans (List.drop_suffix _ _), by omega⟩
  · cases hopened
    cases hrun
    exact .inl ⟨rfl, rfl⟩

theorem shrinks_posix? : Shrinks 0 posix? := by
  intro state found after hrun
  obtain ⟨-, rfl⟩ | ⟨-, hafter, hlt⟩ := rest_of_posix? hrun
  · exact ⟨List.suffix_refl _, Nat.le_refl _⟩
  · exact ⟨hafter, Nat.le_of_lt hlt⟩

theorem shrinks_hyphens (rounds : Nat) : Shrinks 0 (hyphens rounds) := by
  induction rounds with
  | zero => exact shrinks_pure _
  | succ rounds ih =>
      rw [hyphens]
      refine shrinks_first shrinks_peek? fun next => ?_
      split
      · refine shrinks_first shrinks_advance.weaken fun _ => shrinks_first shrinks_more fun _ => ?_
        exact shrinks_first ih fun _ => shrinks_pure _
      · exact shrinks_pure _

theorem shrinks_openSet : Shrinks 1 openSet := by
  refine shrinks_first shrinks_advance fun _ => shrinks_first shrinks_more fun _ => ?_
  refine shrinks_first shrinks_peek? fun next => ?_
  dsimp only
  split
  case' isTrue =>
    refine shrinks_first shrinks_advance.weaken fun _ => shrinks_first shrinks_more fun _ => ?_
  all_goals
    refine shrinks_first shrinks_rounds fun _ => shrinks_first (shrinks_hyphens _) fun _ => ?_
    refine shrinks_first shrinks_peek? fun next => ?_
    split
    · refine shrinks_first shrinks_advance.weaken fun _ => shrinks_first shrinks_more fun _ => ?_
      exact shrinks_pure _
    · exact shrinks_pure _

theorem shrinks_setSingle : Shrinks 1 setSingle := by
  refine shrinks_then shrinks_peek? fun next => ?_
  split
  · split
    · exact shrinks_escape
    · exact shrinks_first (shrinks_bump 1) fun _ => shrinks_pure _
  · exact shrinks_failure

theorem shrinks_toItem (single : Single) : Shrinks 0 single.toItem := by
  cases single with
  | assertion condition => exact shrinks_failure
  | _ => exact shrinks_pure _

theorem shrinks_peekAfter? : Shrinks 0 peekAfter? := by
  refine shrinks_first shrinks_get fun state => ?_
  dsimp only
  split <;> exact shrinks_pure _

theorem shrinks_rangeBetween (first second : Single) : Shrinks 0 (rangeBetween first second) := by
  fun_cases rangeBetween first second
  · exact shrinks_pure _
  · exact shrinks_failure
  · exact shrinks_failure

theorem shrinks_rangeOrItem (first : Single) (after next : Option Char) :
    Shrinks 0 (rangeOrItem first after next) := by
  rw [rangeOrItem]
  split
  · exact shrinks_toItem _
  refine shrinks_first shrinks_advance.weaken fun _ => shrinks_first shrinks_more fun _ => ?_
  exact shrinks_first shrinks_setSingle.weaken fun second => shrinks_rangeBetween first second

theorem shrinks_setRange : Shrinks 1 setRange := by
  refine shrinks_first shrinks_setSingle fun first => shrinks_first shrinks_skipSpace fun _ => ?_
  refine shrinks_first shrinks_more fun _ => shrinks_first shrinks_peekAfter? fun after => ?_
  exact shrinks_first shrinks_peek? fun next => shrinks_rangeOrItem first after next

theorem shrinks_setStep {rounds : Nat}
    (hbody : ∀ pending items, Shrinks 1 (setBody rounds pending items))
    (pending : Option (SetOp × SetTerm)) (items : List SetTerm) (text : List Char) :
    Shrinks 1 (setStep rounds pending items text) := by
  fun_cases setStep rounds pending items text
  · exact shrinks_failure
  · refine shrinks_then shrinks_posix? fun found => ?_
    split
    · exact hbody _ _
    · refine shrinks_then shrinks_openSet.weaken fun opened => ?_
      exact shrinks_then (hbody _ _).weaken fun _ => hbody _ _
  · exact shrinks_first (shrinks_bump 1) fun _ => shrinks_pure _
  iterate 3 exact shrinks_then (shrinks_bump 2).weaken fun _ => hbody _ _
  · exact shrinks_then shrinks_setRange.weaken fun _ => hbody _ _

/-- A set ends with its closing bracket. -/
theorem shrinks_setBody (rounds : Nat) (pending : Option (SetOp × SetTerm)) (items : List SetTerm) :
    Shrinks 1 (setBody rounds pending items) := by
  induction rounds generalizing pending items with
  | zero => exact shrinks_failure
  | succ rounds ih =>
      rw [setBody_succ]
      refine shrinks_then shrinks_skipSpace fun _ => shrinks_then shrinks_get fun state => ?_
      exact shrinks_setStep ih _ _ _

theorem shrinks_bracketed : Shrinks 1 bracketed := by
  refine shrinks_first shrinks_openSet fun opened => ?_
  refine shrinks_first shrinks_rounds fun _ => ?_
  exact shrinks_first (shrinks_setBody _ _ _).weaken fun _ => shrinks_pure _

theorem shrinks_flags (rounds : Nat) (negated : Bool) (settings : Settings) :
    Shrinks 0 (flags rounds negated settings) := by
  induction rounds generalizing negated settings with
  | zero => exact shrinks_failure
  | succ rounds ih =>
      rw [flags]
      refine shrinks_first shrinks_peek? fun next => ?_
      split
      · dsimp only
        split
        · exact shrinks_pure _
        refine shrinks_first (shrinks_bump 1).weaken fun _ => ?_
        split
        · refine shrinks_first shrinks_peek? fun next => ?_
          split
          · exact shrinks_failure
          · exact ih _ _
        · split
          · split
            · exact shrinks_failure
            · exact ih _ _
          · exact shrinks_failure
      · exact shrinks_failure

theorem shrinks_nameGroup (names : List (List Char)) (name : List Char) :
    Shrinks 0 (nameGroup names name) := by
  rw [nameGroup]
  split
  · exact shrinks_failure
  refine shrinks_first (shrinks_bump _).weaken fun _ => shrinks_first (shrinks_eat _) fun _ => ?_
  dsimp only
  split
  · exact shrinks_failure
  · exact shrinks_modify fun _ => List.suffix_refl _

theorem shrinks_groupName : Shrinks 0 groupName :=
  shrinks_first shrinks_get fun _ => shrinks_nameGroup _ _

theorem shrinks_nextCapture : Shrinks 0 nextCapture := by
  refine shrinks_first shrinks_get fun state => ?_
  refine shrinks_first (shrinks_modify fun _ => List.suffix_refl _) fun _ => shrinks_pure _

theorem shrinks_nameMark : Shrinks 0 nameMark := by
  refine shrinks_first (shrinks_eat _) fun _ => ?_
  split
  · exact shrinks_pure _
  · exact shrinks_eat _

theorem shrinks_namedCapture : Shrinks 0 namedCapture := by
  refine shrinks_first shrinks_nextCapture fun _ => ?_
  exact shrinks_first shrinks_groupName fun _ => shrinks_pure _

theorem shrinks_closeFlags (settings : Settings) (close : Option Char) :
    Shrinks 1 (closeFlags settings close) := by
  refine shrinks_first (shrinks_bump 1) fun _ => ?_
  split
  · split
    · exact shrinks_failure
    · exact shrinks_pure _
  · exact shrinks_pure _

theorem shrinks_flagged : Shrinks 1 flagged := by
  refine shrinks_then shrinks_rounds fun _ => shrinks_then (shrinks_flags _ _ _) fun settings => ?_
  exact shrinks_then shrinks_peek? fun close => shrinks_closeFlags settings close

theorem shrinks_opening : Shrinks 1 opening := by
  rw [opening_eq]
  refine shrinks_first shrinks_advance fun _ => shrinks_first shrinks_get fun state => ?_
  dsimp only
  split
  · exact shrinks_failure
  refine shrinks_first shrinks_nameMark fun isNamed => ?_
  split
  · exact shrinks_namedCapture
  refine shrinks_first (shrinks_eat _) fun hasFlags => ?_
  split
  · exact shrinks_flagged.weaken
  · exact shrinks_nextCapture

theorem shrinks_repeatLast (parts : List Term) (low : Nat) (high : Option Nat) (greedy : Bool) :
    Shrinks 0 (repeatLast parts low high greedy) := by
  rw [repeatLast.eq_def]
  split
  · exact shrinks_failure
  · exact shrinks_failure
  · exact shrinks_pure _

theorem shrinks_upper (low : Nat) : Shrinks 0 (upper low) := by
  refine shrinks_first shrinks_peek? fun next => ?_
  split
  · refine shrinks_first shrinks_advance.weaken fun _ => shrinks_first shrinks_peek? fun next => ?_
    split
    · exact shrinks_pure _
    · rw [map_eq_pure_bind]
      exact shrinks_first shrinks_count fun _ => shrinks_pure _
  · exact shrinks_pure _

theorem shrinks_closeCounts (low : Nat) (high : Option Nat) : Shrinks 1 (closeCounts low high) := by
  refine shrinks_then shrinks_peek? fun next => ?_
  dsimp only
  split
  · exact shrinks_failure
  refine shrinks_first shrinks_advance fun _ => shrinks_first (shrinks_eat _) fun isLazy => ?_
  split
  · exact shrinks_failure
  · exact shrinks_pure _

theorem shrinks_counts : Shrinks 1 counts := by
  rw [counts_eq]
  refine shrinks_first shrinks_advance fun _ => shrinks_first shrinks_count fun low => ?_
  exact shrinks_first (shrinks_upper _) fun high => (shrinks_closeCounts _ _).weaken

theorem shrinks_grouped {rounds : Nat} (hbody : Shrinks 0 (body rounds [] [])) (verbose : Bool) :
    Shrinks 0 (grouped rounds verbose) := by
  refine shrinks_first hbody fun _ => shrinks_first (shrinks_eat _) fun closes => ?_
  dsimp only
  split
  · exact shrinks_failure
  · exact shrinks_first (shrinks_modify fun _ => List.suffix_refl _) fun _ => shrinks_pure _

theorem shrinks_afterOpening {rounds : Nat}
    (hbody : ∀ branches parts, Shrinks 0 (body rounds branches parts))
    (branches parts : List Term) (verbose : Bool) (opening : Opening) :
    Shrinks 0 (afterOpening rounds branches parts verbose opening) := by
  have hverbose (verbose : Bool) : Shrinks 0 (modify fun state : Reading =>
      { state with verbose := verbose } : Reader Unit) :=
    shrinks_modify fun _ => List.suffix_refl _
  cases opening with
  | directive settings => exact shrinks_first (hverbose _) fun _ => hbody _ _
  | group settings =>
      refine shrinks_first (hverbose _) fun _ => ?_
      exact shrinks_first (shrinks_grouped (hbody _ _) _) fun _ => hbody _ _
  | capture index => exact shrinks_first (shrinks_grouped (hbody _ _) _) fun _ => hbody _ _

theorem shrinks_bodyStep {rounds : Nat}
    (hbody : ∀ branches parts, Shrinks 0 (body rounds branches parts))
    (branches parts : List Term) (text : List Char) :
    Shrinks 0 (bodyStep rounds branches parts text) := by
  have hrepeat (low : Nat) (high : Option Nat) (greedy : Bool) :
      Shrinks 0 (repeatLast parts low high greedy >>= body rounds branches) :=
    shrinks_first (shrinks_repeatLast _ _ _ _) fun _ => hbody _ _
  have hmark (low : Nat) (high : Option Nat) : Shrinks 0 (do
      bump 1
      let isLazy ← eat ['?']
      body rounds branches (← repeatLast parts low high !isLazy)) :=
    shrinks_first (shrinks_bump 1).weaken fun _ =>
      shrinks_first (shrinks_eat _) fun _ => hrepeat _ _ _
  have hchar (part : Term) : Shrinks 0 (do bump 1; body rounds branches (parts ++ [part])) :=
    shrinks_first (shrinks_bump 1).weaken fun _ => hbody _ _
  fun_cases bodyStep rounds branches parts text
  · exact shrinks_pure _
  · exact shrinks_pure _
  · exact shrinks_first (shrinks_bump 1).weaken fun _ => hbody _ _
  · refine shrinks_first shrinks_get fun _ => shrinks_first shrinks_opening.weaken fun opening => ?_
    exact shrinks_afterOpening hbody _ _ _ _
  · exact shrinks_first shrinks_bracketed.weaken fun _ => hbody _ _
  iterate 3 exact hmark _ _
  · exact shrinks_first shrinks_counts.weaken fun _ => hrepeat _ _ _
  · exact shrinks_first shrinks_escape.weaken fun _ => hbody _ _
  all_goals exact hchar _

/-- What is read of a pattern is never put back. -/
theorem shrinks_body (rounds : Nat) (branches parts : List Term) :
    Shrinks 0 (body rounds branches parts) := by
  induction rounds generalizing branches parts with
  | zero => exact shrinks_failure
  | succ rounds ih =>
      rw [body_succ]
      refine shrinks_first shrinks_skipSpace fun _ => shrinks_first shrinks_get fun state => ?_
      exact shrinks_bodyStep ih _ _ _

end TokenTree.Pattern.Reader
