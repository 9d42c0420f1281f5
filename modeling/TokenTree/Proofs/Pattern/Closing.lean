import TokenTree.Proofs.Pattern.Rounds

/-!
# A closing parenthesis behind a text

What a reader makes of a text is compared with what it makes of the same text with `)` and anything
else behind it. To the reader of a pattern the parenthesis is as good as the end of the text: both
readings stop in front of it, or both fail (`Alike.same`, `Alike.failed`). There are two exceptions.
A comment that is open at the end of the text goes on behind it (`Alike.overrun`). And what fails at
the end of the text may read on through the parenthesis, but then it never comes back to it
(`Alike.past`).

Some parts of the reader may stop at the parenthesis where the text by itself is too short for them.
`Stable` has a condition on where they stop for that, which what is read after them rules out.
-/

namespace TokenTree.Pattern

open Text (isBlank)

/-- The same reading with a closing parenthesis and more behind the text. -/
def Reading.closedBy (outer : List Char) (state : Reading) : Reading :=
  { state with rest := state.rest ++ ')' :: outer }

theorem Reading.rest_closedBy (outer : List Char) (state : Reading) :
    (state.closedBy outer).rest = state.rest ++ ')' :: outer := rfl

namespace Reader

variable {α β : Type} {outer : List Char} {slack : Nat}

/-- How the outcome of reading a text compares with that of reading the text with a parenthesis
behind it, given where the longer text may be left if the shorter one cannot be read. -/
inductive Alike (outer : List Char) (Past : α → Reading → Prop) :
    Option (α × Reading) → Option (α × Reading) → Prop where
  | same (value : α) (state : Reading) :
      Alike outer Past (some (value, state)) (some (value, state.closedBy outer))
  | failed : Alike outer Past none none
  | past (value : α) (state : Reading) (hpast : Past value state) :
      Alike outer Past none (some (value, state))
  /-- The text is read to its end, and so is the longer one if there is but the parenthesis. -/
  | overrun (value : α) (state : Reading) (longer : Option (α × Reading)) (hend : state.rest = [])
      (hpast : ∀ other after, longer = some (other, after) → Past other after)
      (hsame : outer = [] → longer = some (value, state)) :
      Alike outer Past (some (value, state)) longer

/-- At most so many characters are left besides those behind the parenthesis. -/
def Within (outer : List Char) (slack : Nat) (_ : α) (state : Reading) : Prop :=
  state.rest.length ≤ outer.length + slack

/-- What the reader makes of a text does not change with a parenthesis behind it. -/
structure Stable (outer : List Char) (Past : α → Reading → Prop) (reader : Reader α) : Prop where
  shrinks : Shrinks 0 reader
  alike : ∀ state, Alike outer Past (reader.run state) (reader.run (state.closedBy outer))

variable {Past : α → Reading → Prop} {Last : β → Reading → Prop}

/-! ## Readers one after the other -/

theorem Alike.mono {More : α → Reading → Prop} {shorter longer : Option (α × Reading)}
    (halike : Alike outer Past shorter longer)
    (hmore : ∀ value state, Past value state → More value state) :
    Alike outer More shorter longer := by
  cases halike with
  | same value state => exact .same value state
  | failed => exact .failed
  | past value state hpast => exact .past value state (hmore _ _ hpast)
  | overrun value state longer hend hpast hsame =>
      refine .overrun value state longer hend (fun _ _ hlonger => ?_) hsame
      exact hmore _ _ (hpast _ _ hlonger)

/-- If a text cannot be read, all that counts is where the longer one is left. -/
theorem Alike.of_none {longer : Option (α × Reading)}
    (hpast : ∀ value state, longer = some (value, state) → Past value state) :
    Alike outer Past none longer := by
  cases longer with
  | none => exact .failed
  | some result => exact .past result.1 result.2 (hpast _ _ rfl)

/-- The outcome with the parenthesis behind what is left. -/
def closed (outer : List Char) (outcome : Option (α × Reading)) : Option (α × Reading) :=
  outcome.map fun (value, after) => (value, after.closedBy outer)

/-- The same outcome. -/
theorem alike_closed (outcome : Option (α × Reading)) :
    Alike outer Past outcome (closed outer outcome) := by
  cases outcome with
  | none => exact .failed
  | some result => exact .same result.1 result.2

theorem run_bind_closedBy {reader : Reader α} {next last : α → Reader β} {state : Reading}
    (hfirst : reader.run (state.closedBy outer) = closed outer (reader.run state))
    (hnext : ∀ value after,
      (last value).run (after.closedBy outer) = closed outer ((next value).run after)) :
    (reader >>= last).run (state.closedBy outer) =
      closed outer ((reader >>= next).run state) := by
  rw [StateT.run_bind, StateT.run_bind, hfirst]
  cases reader.run state with
  | none => rfl
  | some result => exact hnext result.1 result.2

/-- Readers one after the other from a state. What the first one may leave of the longer text has to
lead to what both may leave. -/
theorem Alike.bind {reader : Reader α} {next : α → Reader β} {state : Reading}
    (hfirst : Alike outer Past (reader.run state) (reader.run (state.closedBy outer)))
    (hnext : ∀ value after, reader.run state = some (value, after) →
      Alike outer Last ((next value).run after) ((next value).run (after.closedBy outer)))
    (hshrinks : ∀ value, Shrinks 0 (next value))
    (hpast : ∀ value after other last, Past value after →
      (next value).run after = some (other, last) → Last other last) :
    Alike outer Last ((reader >>= next).run state)
      ((reader >>= next).run (state.closedBy outer)) := by
  rw [StateT.run_bind, StateT.run_bind]
  generalize reader.run (state.closedBy outer) = longer at hfirst
  generalize hshorter : reader.run state = shorter at hfirst
  cases hfirst with
  | same value after => exact hnext value after hshorter
  | failed => exact .failed
  | past value after hafter =>
      exact .of_none fun other last hrun => hpast _ _ _ _ hafter hrun
  | overrun value after longer hend hlonger hsame =>
      have hlast (other : β) (last : Reading)
          (hrun : (longer.bind fun result => (next result.1).run result.2) = some (other, last)) :
          Last other last := by
        obtain ⟨⟨value, between⟩, hbetween, hrun⟩ := Option.bind_eq_some_iff.1 hrun
        exact hpast _ _ _ _ (hlonger _ _ hbetween) hrun
      show Alike outer Last ((next value).run after) _
      cases hrun : (next value).run after with
      | none => exact .of_none hlast
      | some result =>
          obtain ⟨other, last⟩ := result
          refine .overrun other last _ ?_ hlast fun houter => ?_
          · have hle := (hshrinks _).length_le hrun
            rw [hend] at hle
            exact List.eq_nil_of_length_eq_zero (Nat.le_zero.1 hle)
          · rw [hsame houter]
            exact hrun

theorem Stable.bind {reader : Reader α} {next : α → Reader β} (hfirst : Stable outer Past reader)
    (hnext : ∀ value, Stable outer Last (next value))
    (hpast : ∀ value after other last, Past value after →
      (next value).run after = some (other, last) → Last other last) :
    Stable outer Last (reader >>= next) where
  shrinks := shrinks_first hfirst.shrinks fun value => (hnext value).shrinks
  alike state := (hfirst.alike state).bind (fun value after _ => (hnext value).alike after)
    (fun value => (hnext value).shrinks) hpast

theorem Stable.step {reader : Reader α} {next : α → Reader β}
    (hfirst : Stable outer (Within outer slack) reader)
    (hnext : ∀ value, Stable outer (Within outer slack) (next value)) :
    Stable outer (Within outer slack) (reader >>= next) := by
  refine hfirst.bind hnext fun value after other between hafter hrun => ?_
  exact Nat.le_trans ((hnext value).shrinks.length_le hrun) hafter

/-- If the first reader may stop at the parenthesis, the second one has to go on. -/
theorem Stable.consume {reader : Reader α} {next : α → Reader β}
    (hfirst : Stable outer (Within outer (slack + 1)) reader)
    (hnext : ∀ value, Stable outer (Within outer slack) (next value))
    (hshrinks : ∀ value, Shrinks 1 (next value)) :
    Stable outer (Within outer slack) (reader >>= next) := by
  refine hfirst.bind hnext fun value after other between hafter hrun => ?_
  have := (hshrinks _).length_le hrun
  unfold Within at hafter ⊢
  omega

/-- What reads into the parenthesis may be left anywhere by the readers after it. -/
theorem Stable.lead {reader : Reader α} {next : α → Reader β}
    (hfirst : Stable outer (Within outer 0) reader)
    (hnext : ∀ value, Stable outer Last (next value))
    (hlast : ∀ value state, Within outer 0 value state → Last value state) :
    Stable outer Last (reader >>= next) := by
  refine hfirst.bind hnext fun value after other between hafter hrun => hlast _ _ ?_
  exact Nat.le_trans ((hnext value).shrinks.length_le hrun) hafter

theorem Stable.mono {More : α → Reading → Prop} {reader : Reader α}
    (hreader : Stable outer Past reader)
    (hmore : ∀ value state, Past value state → More value state) : Stable outer More reader where
  shrinks := hreader.shrinks
  alike state := (hreader.alike state).mono hmore

theorem stable_failure : Stable outer Past (failure : Reader α) where
  shrinks := shrinks_failure
  alike _ := .failed

theorem stable_pure (value : α) : Stable outer Past (pure value : Reader α) where
  shrinks := shrinks_pure value
  alike state := .same value state

/-- A change of the state that leaves alone what stands behind the text. -/
theorem stable_modify {Past : Unit → Reading → Prop} {change : Reading → Reading}
    (hrest : ∀ state, (change state).rest <:+ state.rest)
    (hchange : ∀ state, change (state.closedBy outer) = (change state).closedBy outer) :
    Stable outer Past (modify change : Reader Unit) where
  shrinks := shrinks_modify hrest
  alike state := by
    have hrun (state : Reading) :
        (modify change : Reader Unit).run state = some ((), change state) := rfl
    rw [hrun, hrun, hchange]
    exact .same () (change state)

/-! ## Looking ahead -/

/-- A look at the next character is all the same if the parenthesis is taken like the end. -/
theorem stable_peek? {next : Option Char → Reader β} (hclosing : next none = next (some ')'))
    (hnext : ∀ c, Stable outer Last (next c)) : Stable outer Last (peek? >>= next) where
  shrinks := shrinks_first shrinks_peek? fun c => (hnext c).shrinks
  alike state := by
    rw [run_peek?_bind, run_peek?_bind]
    cases hrest : state.rest with
    | nil =>
        rw [Reading.rest_closedBy, hrest, List.nil_append, List.head?_cons, ← hclosing]
        exact (hnext none).alike state
    | cons c text =>
        rw [Reading.rest_closedBy, hrest, List.cons_append, List.head?_cons]
        exact (hnext (some c)).alike state

/-- A look at a next character that has to be there, given what becomes of the parenthesis. -/
theorem stable_peek?_of_none {next : Option Char → Reader β} (hend : next none = failure)
    (hclosing : ∀ state value after, state.rest = ')' :: outer →
      (next (some ')')).run state = some (value, after) → Last value after)
    (hnext : ∀ c, Stable outer Last (next (some c))) : Stable outer Last (peek? >>= next) where
  shrinks := by
    refine shrinks_first shrinks_peek? fun c => ?_
    cases c with
    | none =>
        rw [hend]
        exact shrinks_failure
    | some c => exact (hnext c).shrinks
  alike state := by
    rw [run_peek?_bind, run_peek?_bind]
    cases hrest : state.rest with
    | nil =>
        rw [Reading.rest_closedBy, hrest, List.nil_append, List.head?_cons, List.head?_nil, hend]
        refine .of_none fun value after hafter => hclosing _ _ _ ?_ hafter
        rw [Reading.rest_closedBy, hrest, List.nil_append]
    | cons c text =>
        rw [Reading.rest_closedBy, hrest, List.cons_append, List.head?_cons]
        exact (hnext c).alike state

/-- Where the parenthesis comes next, a reader that consumes enough does not come back to it. -/
theorem within_of_closing {least : Nat} {reader : Reader α} (hreader : Shrinks least reader)
    (hle : 1 ≤ slack + least) {state after : Reading} {value : α}
    (hstate : state.rest = ')' :: outer) (hrun : reader.run state = some (value, after)) :
    Within outer slack value after := by
  have hafter := hreader.length_le hrun
  rw [hstate, List.length_cons] at hafter
  unfold Within
  omega

/-- Some character is left, be it the parenthesis. -/
theorem stable_more : Stable outer (Within outer (slack + 1)) more where
  shrinks := shrinks_more
  alike state := by
    rw [run_more, run_more]
    cases hrest : state.rest with
    | nil =>
        rw [Reading.rest_closedBy, hrest]
        refine .past () _ ?_
        rw [Within, Reading.rest_closedBy, hrest, List.nil_append, List.length_cons]
        omega
    | cons c text =>
        rw [Reading.rest_closedBy, hrest]
        exact .same () state

/-- The rounds of a loop that ignores its bound. -/
theorem stable_rounds {next : Nat → Reader β} (hnext : ∀ count, Stable outer Last (next count))
    (hbound : IgnoresBound next) : Stable outer Last (rounds >>= next) where
  shrinks := shrinks_first shrinks_rounds fun count => (hnext count).shrinks
  alike state := by
    have hrun (state : Reading) :
        (rounds >>= next).run state = (next (state.rest.length + 1)).run state := rfl
    have hlonger : state.rest.length < (state.closedBy outer).rest.length := by
      rw [Reading.closedBy, List.length_append, List.length_cons]
      omega
    rw [hrun, hrun, hbound state _ ((state.closedBy outer).rest.length + 1) (by omega) (by omega)]
    exact (hnext _).alike state

/-! ## Passing over characters -/

/-- Characters are passed over one by one, whether they stand before the parenthesis or behind. -/
theorem stable_bump (count : Nat) : Stable outer (Within outer slack) (bump count) where
  shrinks := (shrinks_bump count).weaken
  alike state := by
    have hrun (state : Reading) :
        (bump count).run state = some ((), { state with rest := state.rest.drop count }) := rfl
    rw [hrun, hrun]
    obtain hlt | hle := Nat.lt_or_ge state.rest.length count
    · have hnil : state.rest.drop count = [] := List.drop_eq_nil_of_le (Nat.le_of_lt hlt)
      refine .overrun _ _ _ hnil ?_ fun houter => ?_
      · intro other after hafter
        cases hafter
        show ((state.rest ++ ')' :: outer).drop count).length ≤ _
        rw [List.length_drop, List.length_append, List.length_cons]
        omega
      · have hdrop : (state.closedBy outer).rest.drop count = state.rest.drop count := by
          rw [hnil, Reading.closedBy, houter]
          refine List.drop_eq_nil_of_le ?_
          rw [List.length_append, List.length_singleton]
          omega
        rw [hdrop]
        rfl
    · have hdrop : { state.closedBy outer with rest := (state.closedBy outer).rest.drop count } =
          Reading.closedBy outer { state with rest := state.rest.drop count } := by
        rw [Reading.closedBy, Reading.closedBy, List.drop_append_of_le_length hle]
      rw [hdrop]
      exact .same _ _

/-- A parenthesis is no blank and begins no comment, but may be in one. -/
theorem skipBlank_append (outer : List Char) (commented : Bool) (text : List Char) :
    skipBlank commented (text ++ ')' :: outer) = skipBlank commented text ++ ')' :: outer ∨
      skipBlank commented text = [] ∧
        skipBlank commented (text ++ ')' :: outer) = skipBlank true outer := by
  induction text generalizing commented with
  | nil =>
      cases commented with
      | true => exact .inr ⟨rfl, rfl⟩
      | false => exact .inl rfl
  | cons c text ih =>
      cases commented with
      | true => exact ih _
      | false =>
          rw [List.cons_append, skipBlank, skipBlank]
          split
          · exact ih _
          · split
            · exact ih _
            · exact .inl rfl

theorem stable_skipSpace : Stable outer (Within outer slack) skipSpace where
  shrinks := shrinks_skipSpace
  alike state := by
    have hrun (state : Reading) : skipSpace.run state = some ((), if state.verbose then
        { state with rest := skipBlank false state.rest } else state) := rfl
    rw [hrun, hrun]
    obtain ⟨text, verbose, captures, names⟩ := state
    cases verbose with
    | false => exact .same _ _
    | true =>
        obtain hsame | ⟨hnil, hlonger⟩ := skipBlank_append outer false text
        · rw [Reading.closedBy]
          simp only [if_true, hsame]
          exact .same () ⟨skipBlank false text, true, captures, names⟩
        · rw [Reading.closedBy]
          simp only [if_true, hnil, hlonger]
          refine .overrun _ _ _ rfl ?_ fun houter => ?_
          · intro other after hafter
            cases hafter
            exact Nat.le_trans (skipBlank_suffix _ _).length_le (Nat.le_add_right _ _)
          · rw [houter]
            rfl

theorem stable_advance : Stable outer (Within outer slack) advance :=
  (stable_bump 1).step fun _ => stable_skipSpace

/-- A text without a closing parenthesis is no prefix because of one. -/
theorem isPrefixOf_append {text : List Char} (htext : ')' ∉ text) (rest outer : List Char) :
    text.isPrefixOf (rest ++ ')' :: outer) = text.isPrefixOf rest := by
  induction text generalizing rest with
  | nil => rfl
  | cons c text ih =>
      obtain ⟨hc, htext⟩ : ')' ≠ c ∧ ')' ∉ text := by simpa using htext
      cases rest with
      | nil => simp [List.isPrefixOf, Ne.symm hc]
      | cons d rest => simp [List.isPrefixOf, ih htext]

theorem run_eat_closedBy {text : List Char} (htext : ')' ∉ text) (outer : List Char)
    (state : Reading) :
    (eat text).run (state.closedBy outer) = closed outer ((eat text).run state) := by
  rw [run_eat, run_eat, Reading.rest_closedBy, isPrefixOf_append htext]
  split
  · rename_i hstarts
    have hle := (List.isPrefixOf_iff_prefix.1 hstarts).length_le
    rw [List.drop_append_of_le_length hle]
    rfl
  · rfl

theorem stable_eat {text : List Char} (htext : ')' ∉ text) :
    Stable outer (Within outer slack) (eat text) where
  shrinks := shrinks_eat text
  alike state := by
    rw [run_eat_closedBy htext]
    exact alike_closed _

theorem stable_collect {accept : Char → Bool} (haccept : accept ')' = false) (count : Nat) :
    Stable outer (Within outer slack) (collect accept count) := by
  induction count with
  | zero => exact stable_pure _
  | succ count ih =>
      rw [collect]
      refine stable_peek? (by simp [haccept]) fun next => ?_
      cases next with
      | none => exact stable_pure _
      | some c =>
          dsimp only
          split
          · exact stable_advance.step fun _ => ih.step fun _ => stable_pure _
          · exact stable_pure _

/-- The characters of a class, however many there are. -/
theorem stable_collect_rounds {accept : Char → Bool} (haccept : accept ')' = false)
    {next : List Char → Reader β} (hnext : ∀ text, Stable outer (Within outer slack) (next text)) :
    Stable outer (Within outer slack) (do next (← collect accept (← rounds))) :=
  stable_rounds (fun count => (stable_collect haccept count).step hnext)
    ((ignoresBound_collect accept).bind next)

theorem stable_count : Stable outer (Within outer slack) count := by
  have hblank : isBlank ')' = false := rfl
  have htrim : Stable outer (Within outer slack) (modify fun state : Reading =>
      { state with rest := state.rest.dropWhile isBlank } : Reader Unit) := by
    refine stable_modify (fun state => List.dropWhile_suffix _) fun state => ?_
    rw [Reading.closedBy, Reading.closedBy, List.dropWhile_append]
    split
    · rename_i hempty
      rw [List.isEmpty_iff.1 hempty]
      rfl
    · rfl
  refine htrim.step fun _ => stable_collect_rounds rfl fun digits => ?_
  refine stable_collect_rounds hblank fun _ => ?_
  dsimp only
  split
  · exact stable_failure
  · exact stable_pure _

end Reader

end TokenTree.Pattern
