import TokenTree.Proofs.Pattern.Closing

/-!
# Escapes and sets in front of a parenthesis

A parenthesis behind an escape or a set in brackets is as good as the end of the text, with one
exception: a boundary that is followed by a brace gives the brace back if it finds no name, but only
where there is another character behind the brace. The brace is then read as a count, which the
parenthesis does not close.
-/

namespace TokenTree.Pattern.Reader

open Text (isBlank)

variable {α β : Type} {outer : List Char} {slack : Nat} {Past : α → Reading → Prop}

/-! ## Escapes -/

theorem stable_ofCode {Past : Char → Reading → Prop} (code : Nat) :
    Stable outer Past (ofCode code) := by
  rw [ofCode]
  split
  · exact stable_pure _
  · exact stable_failure

theorem stable_fixedHex (count : Nat) : Stable outer (Within outer slack) (fixedHex count) := by
  induction count with
  | zero => exact stable_pure _
  | succ count ih =>
      rw [fixedHex]
      refine stable_peek? rfl fun next => ?_
      cases next with
      | none => exact stable_failure
      | some c =>
          dsimp only
          split
          · exact stable_failure
          · exact stable_advance.step fun _ => ih.step fun _ => stable_pure _

theorem stable_codePoint (digits : Nat) : Stable outer (Within outer slack) (codePoint digits) := by
  refine stable_peek? rfl fun next => ?_
  split
  · refine stable_advance.step fun _ => stable_collect_rounds rfl fun code => ?_
    refine stable_peek? rfl fun next => ?_
    dsimp only
    split
    · exact stable_failure
    · exact stable_advance.step fun _ => (stable_ofCode _).step fun _ => stable_pure _
  · exact (stable_fixedHex _).step fun _ => (stable_ofCode _).step fun _ => stable_pure _

theorem stable_hex (digits : Nat) : Stable outer (Within outer slack) (hex (digits + 1)) := by
  rw [hex_eq]
  refine stable_advance.step fun _ => ?_
  exact stable_more.consume (fun _ => stable_codePoint _) fun _ => shrinks_codePoint _

/-- A name that is not closed by a brace is none, and one that is closed behind the parenthesis
reads into it. -/
theorem stable_untilBrace (rounds : Nat) : Stable outer (Within outer 0) (untilBrace rounds) := by
  induction rounds with
  | zero => exact stable_failure
  | succ rounds ih =>
      rw [untilBrace]
      refine stable_peek?_of_none rfl (fun state name after hstate hrun => ?_) fun c => ?_
      · have hname : Shrinks 1 (do advance; return ')' :: (← untilBrace rounds)) :=
          shrinks_first shrinks_advance fun _ =>
            shrinks_first (shrinks_untilBrace _).weaken fun _ => shrinks_pure _
        exact within_of_closing hname (by omega) hstate hrun
      dsimp only
      split
      · exact (stable_bump 1).step fun _ => stable_pure _
      · exact stable_advance.step fun _ => ih.step fun _ => stable_pure _

theorem stable_propertyName : Stable outer (Within outer 0) propertyName := by
  refine stable_advance.step fun _ => ?_
  refine stable_peek?_of_none rfl (fun state name after hstate hrun => ?_) fun c => ?_
  · have hname : Shrinks 1 (do advance; return [')']) :=
      shrinks_first shrinks_advance fun _ => shrinks_pure _
    exact within_of_closing hname (by omega) hstate hrun
  dsimp only
  split
  · exact stable_failure
  refine stable_advance.step fun _ => ?_
  split
  · exact stable_rounds stable_untilBrace ignoresBound_untilBrace
  · exact stable_pure _

theorem stable_boundaryName : Stable outer (Within outer 1) boundaryName := by
  refine stable_advance.step fun _ => stable_more.step fun _ => ?_
  exact stable_rounds (fun count => stable_collect rfl count) (ignoresBound_collect _)

theorem stable_boundaryNamed (name : List Char) :
    Stable outer (Within outer slack) (boundaryNamed name) := by
  refine stable_peek? rfl fun next => ?_
  dsimp only
  split
  · exact stable_failure
  refine (stable_bump 1).step fun _ => ?_
  split <;> first | exact stable_pure _ | exact stable_failure

/-- A class that has no character here consumes nothing. -/
theorem collect_eq_nil {accept : Char → Bool} {count : Nat} {state after : Reading}
    (hrun : (collect accept count).run state = some ([], after)) : after = state := by
  cases count with
  | zero =>
      cases hrun
      rfl
  | succ count =>
      rw [collect] at hrun
      obtain ⟨next, _, hpeek, hrun⟩ := run_bind_eq_some hrun
      obtain ⟨-, rfl⟩ := run_peek?_eq_some hpeek
      cases next with
      | none =>
          cases hrun
          rfl
      | some c =>
          dsimp only at hrun
          split at hrun
          · obtain ⟨_, _, -, hrun⟩ := run_bind_eq_some hrun
            obtain ⟨_, _, -, hrun⟩ := run_bind_eq_some hrun
            cases hrun
          · cases hrun
            rfl

theorem ne_nil_of_more {state after : Reading} (hrun : more.run state = some ((), after)) :
    after = state ∧ state.rest ≠ [] := by
  rw [run_more] at hrun
  split at hrun
  · cases hrun
  · rename_i hempty
    cases hrun
    exact ⟨rfl, fun hnil => hempty (List.isEmpty_iff.2 hnil)⟩

/-- Where the name of a boundary would begin there is another character. -/
theorem boundaryName_eq_nil {state after : Reading}
    (hrun : boundaryName.run state = some ([], after)) :
    advance.run state = some ((), after) ∧ after.rest ≠ [] := by
  obtain ⟨_, advanced, hadvance, hrun⟩ := run_bind_eq_some hrun
  obtain ⟨_, between, hmore, hrun⟩ := run_bind_eq_some hrun
  obtain ⟨_, _, hrounds, hrun⟩ := run_bind_eq_some hrun
  cases hrounds
  obtain rfl := collect_eq_nil hrun
  obtain ⟨rfl, hne⟩ := ne_nil_of_more hmore
  exact ⟨hadvance, hne⟩

/-- After a boundary a brace stands that cannot be read as a count before the parenthesis. -/
def Stuck (outer : List Char) (state : Reading) : Prop :=
  (∃ text, state.rest = '\x7b' :: text) ∧
    ∀ after, advance.run state = some ((), after) → after.rest.length ≤ outer.length + 1

/-- A boundary that is read only with the parenthesis behind it leaves the brace after it. -/
def BoundaryPast (outer : List Char) (condition : Assertion) (state : Reading) : Prop :=
  Within outer 0 condition state ∨ condition = .boundary ∧ Stuck outer state

/-- A name that takes the reading up to the parenthesis is followed by no brace before it. -/
theorem boundaryPast_of_name {start between after : Reading} {text name : List Char}
    {condition : Assertion} (hstart : start.rest = '\x7b' :: text)
    (hname : boundaryName.run start = some (name, between))
    (hbetween : Within outer 1 name between)
    (hrun : (boundaryFrom start name).run between = some (condition, after)) :
    BoundaryPast outer condition after := by
  unfold Within at hbetween
  rw [boundaryFrom] at hrun
  split at hrun
  · rename_i hempty
    cases hrun
    rw [List.isEmpty_iff.1 hempty] at hname
    obtain ⟨hadvance, -⟩ := boundaryName_eq_nil hname
    refine .inr ⟨rfl, ⟨text, hstart⟩, fun after hafter => ?_⟩
    cases hadvance.symm.trans hafter
    exact hbetween
  · have := (shrinks_boundaryNamed _).length_le hrun
    refine .inl ?_
    unfold Within
    omega

/-- If the text ends in the name of a boundary, there is a name, and nothing closes it. -/
theorem boundaryFrom_eq_none {start state after : Reading} {name : List Char}
    (hname : boundaryName.run state = some (name, after)) (hend : after.rest = []) :
    (boundaryFrom start name).run after = none := by
  have hname : ¬ name.isEmpty := fun hempty => by
    rw [List.isEmpty_iff.1 hempty] at hname
    exact (boundaryName_eq_nil hname).2 hend
  rw [boundaryFrom, if_neg hname, boundaryNamed, run_peek?_bind, hend]
  rfl

theorem run_boundary (state : Reading) : boundary.run state =
    if state.rest.head? != some '\x7b' then some (.boundary, state)
    else (boundaryName >>= boundaryFrom state).run state := by
  rw [boundary_eq, run_peek?_bind]
  split <;> rfl

theorem stable_boundary : Stable outer (BoundaryPast outer) boundary where
  shrinks := shrinks_boundary
  alike state := by
    rw [run_boundary, run_boundary, Reading.rest_closedBy]
    cases hrest : state.rest with
    | nil => exact .same _ state
    | cons c text =>
        rw [List.cons_append, List.head?_cons, List.head?_cons]
        split
        · exact .same _ state
        rename_i hbrace
        obtain rfl : c = '\x7b' := by simpa using hbrace
        have hclosed : (state.closedBy outer).rest = '\x7b' :: (text ++ ')' :: outer) := by
          rw [Reading.rest_closedBy, hrest]
          rfl
        have hname : Stable outer (Within outer 1) boundaryName := stable_boundaryName
        have halike := hname.alike state
        have hpast (name : List Char) (between : Reading) (condition : Assertion) (after : Reading)
            (hname : boundaryName.run (state.closedBy outer) = some (name, between))
            (hbetween : Within outer 1 name between)
            (hrun : (boundaryFrom (state.closedBy outer) name).run between =
              some (condition, after)) : BoundaryPast outer condition after :=
          boundaryPast_of_name hclosed hname hbetween hrun
        rw [StateT.run_bind, StateT.run_bind]
        generalize boundaryName.run (state.closedBy outer) = longer at halike hpast ⊢
        generalize hshorter : boundaryName.run state = shorter at halike
        cases halike with
        | same name after =>
            show Alike outer _ ((boundaryFrom state name).run after)
              ((boundaryFrom (state.closedBy outer) name).run (after.closedBy outer))
            rw [boundaryFrom, boundaryFrom]
            split
            · exact .same _ state
            · exact ((stable_boundaryNamed name).alike after).mono fun _ _ => .inl
        | failed => exact .failed
        | past name after hafter =>
            exact .of_none fun condition last hrun => hpast _ _ _ _ rfl hafter hrun
        | overrun name after longer hend hlonger hsame =>
            show Alike outer _ ((boundaryFrom state name).run after) _
            rw [boundaryFrom_eq_none hshorter hend]
            refine .of_none fun condition last hrun => ?_
            obtain ⟨⟨other, between⟩, hother, hrun⟩ := Option.bind_eq_some_iff.1 hrun
            exact hpast _ _ _ _ hother (hlonger _ _ hother) hrun

/-- An escape that is read only with the parenthesis behind it is a boundary with a brace after it,
unless it reads into the parenthesis. -/
def SinglePast (outer : List Char) (single : Single) (state : Reading) : Prop :=
  Within outer 0 single state ∨ single = .assertion .boundary ∧ Stuck outer state

theorem stable_escape : Stable outer (SinglePast outer) escape := by
  have hhex (digits : Nat) : Stable outer (SinglePast outer) (hex (digits + 1)) :=
    (stable_hex digits).mono fun _ _ => .inl
  have hproperty (negated : Bool) :
      Stable outer (SinglePast outer) (do return .property (← propertyName) negated) :=
    (stable_propertyName.step fun _ => stable_pure _).mono fun _ _ => .inl
  have hboundary : Stable outer (SinglePast outer) (do return .assertion (← boundary)) := by
    refine stable_boundary.bind (fun _ => stable_pure _) ?_
    rintro condition state single after (hwithin | ⟨rfl, hstuck⟩) hrun
    · cases hrun
      exact .inl hwithin
    · cases hrun
      exact .inr ⟨rfl, hstuck⟩
  refine (stable_bump 1).lead (fun _ => ?_) fun _ _ => .inl
  refine stable_peek?_of_none rfl (fun state single after hstate hrun => .inl ?_) fun c => ?_
  · have hbump : Shrinks 1 (do bump 1; return Single.char ')') :=
      shrinks_first (shrinks_bump 1) fun _ => shrinks_pure _
    exact within_of_closing hbump (by omega) hstate hrun
  dsimp only
  split
  · exact hhex 1
  · exact hhex 3
  · exact hhex 7
  · exact hproperty false
  · exact hproperty true
  · refine (stable_bump 1).lead (fun _ => ?_) fun _ _ => .inl
    split
    · exact stable_pure _
    split <;> first | exact stable_pure _ | exact stable_failure | exact hboundary

/-! ## Sets in brackets -/

/-- No class has a parenthesis in its name. -/
theorem not_mem_of_posixNamed? {name : List Char} {set : Text.CharSet}
    (hname : posixNamed? (String.ofList name) = some set) : ')' ∉ name := by
  have hlist (text : String) (htext : String.ofList name = text) (hnot : ')' ∉ text.toList) :
      ')' ∉ name := by
    rwa [← htext, String.toList_ofList] at hnot
  unfold posixNamed? at hname
  dsimp only at hname
  split at hname <;> first | exact hlist _ ‹_› (by decide) | cases hname

/-- A class that a text does not close is none, and the parenthesis does not close it. -/
theorem run_posixFrom_closedBy (outer : List Char) (start : Reading) (negated : Bool)
    (state : Reading) : (posixFrom (start.closedBy outer) negated).run (state.closedBy outer) =
      closed outer ((posixFrom start negated).run state) := by
  unfold posixFrom
  rw [run_get_bind, run_get_bind, run_bump_bind, run_bump_bind, Reading.rest_closedBy,
    List.takeWhile_append]
  by_cases hwhole : (state.rest.takeWhile (· != ':')).length = state.rest.length
  -- No colon is left: the name runs to the end of the text, and beyond with the parenthesis.
  · have hname : state.rest.takeWhile (· != ':') = state.rest :=
      (List.takeWhile_prefix _).eq_of_length hwhole
    have hmem : ')' ∈ state.rest ++ (')' :: outer).takeWhile (· != ':') :=
      List.mem_append_right _ (List.mem_cons_self ..)
    have hlonger : posixNamed? (String.ofList
        (state.rest ++ (')' :: outer).takeWhile (· != ':'))) = none :=
      Option.eq_none_iff_forall_ne_some.2 fun set hset => not_mem_of_posixNamed? hset hmem
    rw [if_pos hwhole, hlonger, hname, List.drop_length]
    cases posixNamed? (String.ofList state.rest) with
    | none => rfl
    | some set => rfl
  · have hle : (state.rest.takeWhile (· != ':')).length ≤ state.rest.length :=
      (List.takeWhile_prefix _).length_le
    rw [if_neg hwhole, List.drop_append_of_le_length hle]
    cases posixNamed? (String.ofList (state.rest.takeWhile (· != ':'))) with
    | none => rfl
    | some set =>
        have hcloses := run_eat_closedBy (show ')' ∉ [':', ']'] by decide) outer
          { state with rest := state.rest.drop (state.rest.takeWhile (· != ':')).length }
        refine run_bind_closedBy hcloses fun closes after => ?_
        split <;> rfl

theorem run_posix?_closedBy (outer : List Char) (state : Reading) :
    posix?.run (state.closedBy outer) = closed outer (posix?.run state) := by
  rw [posix?_eq, run_get_bind, run_get_bind]
  refine run_bind_closedBy (run_eat_closedBy (by decide) outer state) fun opens opened => ?_
  split
  · rfl
  refine run_bind_closedBy (run_eat_closedBy (by decide) outer opened) fun negated inner => ?_
  exact run_posixFrom_closedBy outer state negated inner

theorem stable_posix? : Stable outer (Within outer slack) posix? where
  shrinks := shrinks_posix?
  alike state := by
    rw [run_posix?_closedBy]
    exact alike_closed _

theorem stable_hyphens (rounds : Nat) : Stable outer (Within outer 1) (hyphens rounds) := by
  induction rounds with
  | zero => exact stable_pure _
  | succ rounds ih =>
      rw [hyphens]
      refine stable_peek? rfl fun next => ?_
      split
      · refine stable_advance.step fun _ => stable_more.step fun _ => ?_
        exact ih.step fun _ => stable_pure _
      · exact stable_pure _

theorem stable_openSet : Stable outer (Within outer 1) openSet := by
  refine stable_advance.step fun _ => stable_more.step fun _ => stable_peek? rfl fun next => ?_
  dsimp only
  have hitems (negated : Bool) (items : List SetTerm) :
      Stable outer (Within outer 1) (do
        if items.isEmpty && (← peek?) == some ']' then
          advance
          more
          return (negated, [.char ']'])
        return (negated, items)) := by
    refine stable_peek? rfl fun next => ?_
    split
    · exact stable_advance.step fun _ => stable_more.step fun _ => stable_pure _
    · exact stable_pure _
  split
  case' isTrue => refine stable_advance.step fun _ => stable_more.step fun _ => ?_
  all_goals
    refine stable_rounds (fun count => (stable_hyphens count).step fun items => ?_) ?_
    · exact hitems _ items
    · exact ignoresBound_hyphens.bind _

theorem stable_setSingle : Stable outer (SinglePast outer) setSingle := by
  have hbump (c : Char) : Stable outer (SinglePast outer) (do bump 1; return Single.char c) :=
    ((stable_bump 1).step fun _ => stable_pure _).mono fun _ _ => .inl
  refine stable_peek?_of_none rfl (fun state single after hstate hrun => .inl ?_) fun c => ?_
  · have hshrinks : Shrinks 1 (do bump 1; return Single.char ')') :=
      shrinks_first (shrinks_bump 1) fun _ => shrinks_pure _
    exact within_of_closing hshrinks (by omega) hstate hrun
  dsimp only
  split
  · exact stable_escape
  · exact hbump c

theorem stable_toItem {Past : SetTerm → Reading → Prop} (single : Single) :
    Stable outer Past single.toItem := by
  cases single with
  | assertion condition => exact stable_failure
  | _ => exact stable_pure _

/-- The first character that means something is the parenthesis if the text has none. -/
theorem firstVisible?_append (outer : List Char) (commented : Bool) (text : List Char) :
    firstVisible? commented (text ++ ')' :: outer) =
      (firstVisible? commented text).or (some ')') := by
  induction text generalizing commented with
  | nil => cases commented <;> rfl
  | cons c text ih =>
      rw [List.cons_append, firstVisible?, firstVisible?]
      split
      · exact ih _
      · split
        · exact ih _
        · rfl

/-- The character after the next one, as `peekAfter?` finds it. -/
def after? (state : Reading) : Option Char :=
  let after := state.rest.drop 1
  if state.verbose then (firstVisible? false after).or after.head? else after.head?

theorem run_peekAfter?_bind (next : Option Char → Reader β) (state : Reading) :
    (peekAfter? >>= next).run state = (next (after? state)).run state := by
  rw [peekAfter?, after?, bind_assoc, run_get_bind]
  dsimp only
  split
  · rw [Option.orElse_eq_orElse, Option.orElse_eq_or]
    rfl
  · rfl

/-- Where no character means anything, the first one is blank or begins a comment. -/
theorem head_of_firstVisible? {text : List Char} {c : Char}
    (htext : firstVisible? false text = none) (hhead : text.head? = some c) :
    isBlank c = true ∨ c = '#' := by
  cases text with
  | nil => cases hhead
  | cons d text =>
      cases hhead
      rw [firstVisible?] at htext
      split at htext
      · exact .inl ‹_›
      · split at htext
        · rename_i hmark
          exact .inr (by simpa using hmark)
        · cases htext

/-- Behind a character that is left, the parenthesis is neither a bracket nor a hyphen. -/
theorem after?_closedBy {c : Char} (hc : c = ']' ∨ c = '-') {state : Reading}
    (hstate : state.rest ≠ []) :
    (after? (state.closedBy outer) == some c) = (after? state == some c) := by
  have hclosing : (some ')' == some c) = false := by
    obtain rfl | rfl := hc <;> rfl
  obtain ⟨_ | ⟨d, text⟩, verbose, captures, names⟩ := state
  · exact absurd rfl hstate
  rw [after?, after?, Reading.rest_closedBy]
  show ((if verbose then (firstVisible? false (text ++ ')' :: outer)).or
      (text ++ ')' :: outer).head? else (text ++ ')' :: outer).head?) == some c) =
    ((if verbose then (firstVisible? false text).or text.head? else text.head?) == some c)
  cases verbose with
  | false =>
      cases text with
      | nil => exact hclosing
      | cons e text => rfl
  | true =>
      rw [if_pos rfl, if_pos rfl, firstVisible?_append]
      cases hvisible : firstVisible? false text with
      | some e => rfl
      | none =>
          -- Blanks and comments are neither.
          have hhead : text.head? ≠ some c := fun hhead => by
            have hblank := head_of_firstVisible? hvisible hhead
            obtain rfl | rfl := hc <;> revert hblank <;> decide
          rw [Option.none_or, Option.none_or, Option.some_or, hclosing]
          exact (beq_eq_false_iff_ne.2 hhead).symm

theorem stable_rangeBetween {Past : SetTerm → Reading → Prop} (first second : Single) :
    Stable outer Past (rangeBetween first second) := by
  fun_cases rangeBetween first second
  · exact stable_pure _
  · exact stable_failure
  · exact stable_failure

theorem stable_rangeEnd (first : Single) : Stable outer (Within outer 1) (rangeEnd first) := by
  refine stable_advance.step fun _ => stable_more.step fun _ => ?_
  refine stable_setSingle.bind (fun second => stable_rangeBetween first second) ?_
  rintro second between item after (hwithin | ⟨rfl, -⟩) hrun
  · have hafter := (shrinks_rangeBetween first second).length_le hrun
    unfold Within at hwithin ⊢
    omega
  · cases first <;> cases hrun

theorem stable_rangeOrItem (first : Single) : Stable outer (Within outer 1) (do
    let after ← peekAfter?
    let next ← peek?
    rangeOrItem first after next) where
  shrinks := shrinks_first shrinks_peekAfter? fun after =>
    shrinks_first shrinks_peek? fun next => shrinks_rangeOrItem first after next
  alike state := by
    rw [run_peekAfter?_bind, run_peekAfter?_bind, run_peek?_bind, run_peek?_bind,
      Reading.rest_closedBy]
    cases hrest : state.rest with
    | nil => exact (stable_toItem first).alike state
    | cons c text =>
        have hne : state.rest ≠ [] := by simp [hrest]
        have hsame : rangeOrItem first (after? (state.closedBy outer)) (some c) =
            rangeOrItem first (after? state) (some c) := by
          rw [rangeOrItem, rangeOrItem, after?_closedBy (.inl rfl) hne,
            after?_closedBy (.inr rfl) hne]
        rw [List.cons_append, List.head?_cons, List.head?_cons, hsame, rangeOrItem]
        split
        · exact (stable_toItem first).alike state
        · exact (stable_rangeEnd first).alike state

/-- An assertion is no item of a set, nor the start of a range. -/
theorem rangeOrItem_assertion (condition : Assertion) (after next : Option Char)
    (state : Reading) : (rangeOrItem (.assertion condition) after next).run state = none := by
  cases hrun : (rangeOrItem (.assertion condition) after next).run state with
  | none => rfl
  | some result =>
      rw [rangeOrItem] at hrun
      split at hrun
      · cases hrun
      · obtain ⟨_, _, -, hrun⟩ := run_bind_eq_some hrun
        obtain ⟨_, _, -, hrun⟩ := run_bind_eq_some hrun
        obtain ⟨_, _, -, hrun⟩ := run_bind_eq_some hrun
        cases hrun

theorem stable_setRange : Stable outer (Within outer 1) setRange := by
  rw [setRange_eq]
  have hnext (first : Single) : Stable outer (Within outer 1) (do
      skipSpace
      more
      let after ← peekAfter?
      let next ← peek?
      rangeOrItem first after next) :=
    stable_skipSpace.step fun _ => stable_more.step fun _ => stable_rangeOrItem first
  refine stable_setSingle.bind hnext ?_
  rintro first between item after (hwithin | ⟨rfl, -⟩) hrun
  · have hafter := (hnext first).shrinks.length_le hrun
    unfold Within at hwithin ⊢
    omega
  · obtain ⟨_, _, -, hrun⟩ := run_bind_eq_some hrun
    obtain ⟨_, _, -, hrun⟩ := run_bind_eq_some hrun
    obtain ⟨_, _, -, hrun⟩ := run_bind_eq_some hrun
    obtain ⟨_, _, -, hrun⟩ := run_bind_eq_some hrun
    rw [rangeOrItem_assertion] at hrun
    cases hrun

/-- What a set goes on with does not depend on more than two characters. -/
theorem setStep_append (outer : List Char) (rounds : Nat) (pending : Option (SetOp × SetTerm))
    (items : List SetTerm) {text : List Char} (htext : text ≠ []) :
    setStep rounds pending items (text ++ ')' :: outer) = setStep rounds pending items text := by
  fun_cases setStep rounds pending items text
  · exact absurd rfl htext
  · rfl
  · rfl
  · rfl
  · rfl
  · rfl
  · rw [setStep.eq_7]
    · simp
    -- A character or two at the start of the longer text are those of the text, or the parenthesis.
    all_goals
      intro rest hrest
      obtain _ | ⟨c, _ | ⟨d, text⟩⟩ := text
      · exact htext rfl
      · simp_all
      · simp_all

theorem stable_setStep {rounds : Nat}
    (hbody : ∀ pending items, Stable outer (Within outer 0) (setBody rounds pending items))
    (pending : Option (SetOp × SetTerm)) (items : List SetTerm) {text : List Char}
    (htext : text ≠ []) : Stable outer (Within outer 0) (setStep rounds pending items text) := by
  fun_cases setStep rounds pending items text
  · exact absurd rfl htext
  · refine stable_posix?.step fun found => ?_
    split
    · exact hbody _ _
    · refine stable_openSet.consume (fun opened => ?_) fun opened => ?_
      · exact (hbody _ _).step fun _ => hbody _ _
      · exact shrinks_then (shrinks_setBody _ _ _).weaken fun _ => shrinks_setBody _ _ _
  · exact (stable_bump 1).step fun _ => stable_pure _
  iterate 3 exact (stable_bump 2).step fun _ => hbody _ _
  · exact stable_setRange.consume (fun _ => hbody _ _) fun _ => shrinks_setBody _ _ _

theorem stable_setBody (rounds : Nat) (pending : Option (SetOp × SetTerm)) (items : List SetTerm) :
    Stable outer (Within outer 0) (setBody rounds pending items) := by
  induction rounds generalizing pending items with
  | zero => exact stable_failure
  | succ rounds ih =>
      rw [setBody_succ]
      refine stable_skipSpace.step fun _ => ?_
      constructor
      · exact shrinks_first shrinks_get fun state =>
          (shrinks_setStep (shrinks_setBody rounds) _ _ _).weaken
      · intro state
        rw [run_get_bind, run_get_bind, Reading.rest_closedBy]
        by_cases hrest : state.rest = []
        · rw [hrest, List.nil_append]
          refine .of_none fun value after hrun => ?_
          have hrange := shrinks_setStep (shrinks_setBody rounds) pending items (')' :: outer)
          refine within_of_closing hrange (Nat.le_refl 1) ?_ hrun
          rw [Reading.rest_closedBy, hrest, List.nil_append]
        · rw [setStep_append outer rounds pending items hrest]
          exact (stable_setStep ih pending items hrest).alike state

theorem stable_bracketed : Stable outer (Within outer 0) bracketed := by
  refine stable_openSet.consume (fun opened => ?_) fun opened => ?_
  · refine stable_rounds (fun count => (stable_setBody count _ _).step fun _ => stable_pure _) ?_
    exact (ignoresBound_setBody _ _).bind _
  · refine shrinks_then shrinks_rounds fun _ => ?_
    exact shrinks_first (shrinks_setBody _ _ _) fun _ => shrinks_pure _

end TokenTree.Pattern.Reader
