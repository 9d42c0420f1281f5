import TokenTree.Proofs.Pattern.ClosedSets

/-!
# Groups and alternations in front of a parenthesis

`stable_body` puts the parts of the reader together: a pattern reads the same with a parenthesis
behind it, up to a comment that is open at its end.
-/

namespace TokenTree.Pattern.Reader

variable {α β : Type} {outer : List Char} {slack : Nat}

/-! ## Groups -/

/-- Flags do not end with the text. -/
theorem flags_eq_none {rounds : Nat} {negated : Bool} {settings : Settings} {state : Reading}
    (hstate : state.rest = []) : (flags rounds negated settings).run state = none := by
  cases rounds with
  | zero => rfl
  | succ rounds =>
      rw [flags, run_peek?_bind, hstate]
      rfl

theorem stable_flags (rounds : Nat) (negated : Bool) (settings : Settings) :
    Stable outer (Within outer 1) (flags rounds negated settings) := by
  induction rounds generalizing negated settings with
  | zero => exact stable_failure
  | succ rounds ih =>
      rw [flags]
      refine stable_peek?_of_none rfl (fun state settings after hstate hrun => ?_) fun c => ?_
      · cases hrun
        have hlength : state.rest.length = outer.length + 1 := by rw [hstate, List.length_cons]
        exact Nat.le_of_eq hlength
      dsimp only
      split
      · exact stable_pure _
      refine (stable_bump 1).step fun _ => ?_
      split
      -- The hyphen is not the last character: both the end and the parenthesis come too early.
      · constructor
        · refine shrinks_first shrinks_peek? fun next => ?_
          split
          · exact shrinks_failure
          · exact shrinks_flags _ _ _
        · intro state
          rw [run_peek?_bind, run_peek?_bind, Reading.rest_closedBy]
          cases hrest : state.rest with
          | nil =>
              have hshorter : (if negated || none == some ':' || none == some ')' then failure
                  else flags rounds true settings : Reader Settings).run state = none := by
                split
                · rfl
                · exact flags_eq_none hrest
              have hlonger : (negated || some ')' == some ':' || some ')' == some ')') = true :=
                Bool.or_true _
              rw [List.nil_append, List.head?_cons, List.head?_nil, failure_bind, hshorter,
                if_pos hlonger]
              exact .failed
          | cons d text =>
              rw [List.cons_append, List.head?_cons, List.head?_cons]
              split
              · exact .failed
              · exact (ih _ _).alike state
      · split
        · split
          · exact stable_failure
          · exact ih _ _
        · exact stable_failure

/-- Flags are left in front of the character that ends them. -/
theorem ne_nil_of_flags {rounds : Nat} {negated : Bool} {settings flags : Settings}
    {state after : Reading}
    (hrun : (Reader.flags rounds negated settings).run state = some (flags, after)) :
    after.rest ≠ [] := by
  induction rounds generalizing negated settings state with
  | zero => cases hrun
  | succ rounds ih =>
      rw [Reader.flags, run_peek?_bind] at hrun
      cases hrest : state.rest with
      | nil =>
          rw [hrest] at hrun
          cases hrun
      | cons c text =>
          rw [hrest] at hrun
          dsimp only [List.head?_cons] at hrun
          split at hrun
          · cases hrun
            rw [hrest]
            exact List.cons_ne_nil c text
          rw [run_bump_bind] at hrun
          split at hrun
          · rw [run_peek?_bind] at hrun
            split at hrun
            · cases hrun
            · exact ih hrun
          · split at hrun
            · split at hrun
              · cases hrun
              · exact ih hrun
            · cases hrun

theorem stable_closeFlags (settings : Settings) (close : Option Char) :
    Stable outer (Within outer slack) (closeFlags settings close) := by
  refine (stable_bump 1).step fun _ => ?_
  split
  · split
    · exact stable_failure
    · exact stable_pure _
  · exact stable_pure _

theorem stable_flagged : Stable outer (Within outer 0) flagged where
  shrinks := shrinks_flagged.weaken
  alike state := by
    have hflags : Stable outer (Within outer 1) (do flags (← rounds) false []) :=
      stable_rounds (fun count => stable_flags count false []) (ignoresBound_flags false [])
    have hflagged : flagged = ((do flags (← rounds) false []) >>= fun settings =>
        peek? >>= closeFlags settings) := by
      rw [flagged, bind_assoc]
    rw [hflagged]
    refine (hflags.alike state).bind (fun settings after hrun => ?_) (fun settings => ?_) ?_
    · obtain ⟨count, _, hrounds, hrun⟩ := run_bind_eq_some hrun
      rw [run_peek?_bind, run_peek?_bind, Reading.rest_closedBy]
      cases hrest : after.rest with
      | nil => exact absurd hrest (ne_nil_of_flags hrun)
      | cons c text =>
          rw [List.cons_append, List.head?_cons, List.head?_cons]
          exact (stable_closeFlags settings (some c)).alike after
    · exact shrinks_first shrinks_peek? fun close => (shrinks_closeFlags settings close).weaken
    · intro settings after other last hafter hrun
      obtain ⟨close, _, hpeek, hrun⟩ := run_bind_eq_some hrun
      obtain ⟨-, rfl⟩ := run_peek?_eq_some hpeek
      have hlast := (shrinks_closeFlags _ _).length_le hrun
      unfold Within at hafter ⊢
      omega

theorem isGroupName_of_mem {name : List Char} (hname : ')' ∈ name) : isGroupName name = false := by
  have hchar (first : Bool) : isNameChar first ')' = false := by
    cases first <;> decide
  cases name with
  | nil => rfl
  | cons first others =>
      obtain rfl | hmem := List.mem_cons.1 hname
      · rw [isGroupName, hchar, Bool.false_and]
      · have hothers : others.all (isNameChar false) = false :=
          List.all_eq_false.2 ⟨')', hmem, by rw [hchar]; decide⟩
        rw [isGroupName, hothers, Bool.and_false]

theorem stable_nameGroup (names : List (List Char)) (name : List Char) :
    Stable outer (Within outer 0) (nameGroup names name) := by
  rw [nameGroup]
  split
  · exact stable_failure
  refine (stable_bump _).step fun _ => (stable_eat (by decide)).step fun closes => ?_
  dsimp only
  split
  · exact stable_failure
  · exact stable_modify (fun _ => List.suffix_refl _) fun _ => rfl

theorem stable_groupName : Stable outer (Within outer 0) groupName where
  shrinks := shrinks_groupName
  alike state := by
    rw [groupName_eq, run_get_bind, run_get_bind, Reading.rest_closedBy, List.takeWhile_append]
    by_cases hwhole : (state.rest.takeWhile (· != '>')).length = state.rest.length
    -- No bracket is left: the name does not end in the text, nor can it have the parenthesis.
    · have hname : state.rest.takeWhile (· != '>') = state.rest :=
        (List.takeWhile_prefix _).eq_of_length hwhole
      have hmem : ')' ∈ state.rest ++ (')' :: outer).takeWhile (· != '>') :=
        List.mem_append_right _ (List.mem_cons_self ..)
      have hshorter (names : List (List Char)) :
          (nameGroup names state.rest).run state = none := by
        rw [nameGroup]
        split
        · rfl
        · rw [run_bump_bind, List.drop_length]
          rfl
      have hlonger (names : List (List Char)) : nameGroup names
          (state.rest ++ (')' :: outer).takeWhile (· != '>')) = failure := by
        rw [nameGroup, isGroupName_of_mem hmem]
        rfl
      rw [if_pos hwhole, hname, hshorter, hlonger]
      exact .failed
    · rw [if_neg hwhole]
      exact (stable_nameGroup _ _).alike state

theorem stable_nextCapture : Stable outer (Within outer 0) nextCapture where
  shrinks := shrinks_nextCapture
  alike state := .same _ { state with captures := state.captures + 1 }

theorem stable_nameMark : Stable outer (Within outer 0) nameMark := by
  refine (stable_eat (by decide)).step fun _ => ?_
  split
  · exact stable_pure _
  · exact stable_eat (by decide)

theorem stable_namedCapture : Stable outer (Within outer 0) namedCapture :=
  stable_nextCapture.step fun _ => stable_groupName.step fun _ => stable_pure _

theorem looksAround_append (text outer : List Char) :
    looksAround (text ++ ')' :: outer) = looksAround text := by
  unfold looksAround
  simp only [List.any_cons, List.any_nil]
  rw [isPrefixOf_append (by decide), isPrefixOf_append (by decide), isPrefixOf_append (by decide),
    isPrefixOf_append (by decide)]

theorem stable_opening : Stable outer (Within outer 0) opening := by
  rw [opening_eq]
  refine stable_advance.step fun _ => ?_
  have hgroup : Stable outer (Within outer 0) (do
      if ← nameMark then namedCapture
      else if ← eat ['?'] then flagged
      else nextCapture) := by
    refine stable_nameMark.step fun isNamed => ?_
    split
    · exact stable_namedCapture
    refine (stable_eat (by decide)).step fun hasFlags => ?_
    split
    · exact stable_flagged
    · exact stable_nextCapture
  constructor
  · refine shrinks_first shrinks_get fun state => ?_
    dsimp only
    split
    · exact shrinks_failure
    · exact hgroup.shrinks
  · intro state
    rw [run_get_bind, run_get_bind, Reading.rest_closedBy, looksAround_append]
    split
    · exact .failed
    · exact hgroup.alike state

theorem stable_repeatLast {Past : List Term → Reading → Prop} (parts : List Term) (low : Nat)
    (high : Option Nat) (greedy : Bool) :
    Stable outer Past (repeatLast parts low high greedy) := by
  rw [repeatLast.eq_def]
  split
  · exact stable_failure
  · exact stable_failure
  · exact stable_pure _

theorem stable_upper (low : Nat) : Stable outer (Within outer 0) (upper low) := by
  refine stable_peek? rfl fun next => ?_
  split
  · refine stable_advance.step fun _ => stable_peek? rfl fun next => ?_
    split
    · exact stable_pure _
    · rw [map_eq_pure_bind]
      exact stable_count.step fun _ => stable_pure _
  · exact stable_pure _

theorem stable_closeCounts (low : Nat) (high : Option Nat) :
    Stable outer (Within outer 0) (closeCounts low high) := by
  refine stable_peek? rfl fun next => ?_
  dsimp only
  split
  · exact stable_failure
  refine stable_advance.step fun _ => (stable_eat (by decide)).step fun isLazy => ?_
  split
  · exact stable_failure
  · exact stable_pure _

theorem stable_counts : Stable outer (Within outer 0) counts := by
  rw [counts_eq]
  refine stable_advance.step fun _ => stable_count.step fun low => ?_
  exact (stable_upper _).step fun high => stable_closeCounts _ _

/-! ## Sequences and alternations -/

/-- A group is closed by its own parenthesis, or else by the one behind the text. -/
theorem stable_eat_closing {next : Bool → Reader β} (hfalse : next false = failure)
    (htrue : Stable outer (Within outer 0) (next true)) :
    Stable outer (Within outer 0) (eat [')'] >>= next) where
  shrinks := by
    refine shrinks_first (shrinks_eat _) fun closes => ?_
    cases closes with
    | false =>
        rw [hfalse]
        exact shrinks_failure
    | true => exact htrue.shrinks
  alike state := by
    rw [StateT.run_bind, StateT.run_bind, run_eat, run_eat, Reading.rest_closedBy]
    cases hrest : state.rest with
    | nil =>
        show Alike outer (Within outer 0) ((next false).run state)
          ((next true).run { state.closedBy outer with rest := outer })
        rw [hfalse]
        exact .of_none fun value after hrun => htrue.shrinks.length_le hrun
    | cons c text =>
        by_cases hc : c = ')'
        · subst hc
          exact htrue.alike { state with rest := text }
        · have hstarts (rest : List Char) : [')'].isPrefixOf (c :: rest) = false := by
            simp [List.isPrefixOf, Ne.symm hc]
          rw [List.cons_append, if_neg (by simp [hstarts]), if_neg (by simp [hstarts])]
          show Alike outer (Within outer 0) ((next false).run state)
            ((next false).run (state.closedBy outer))
          rw [hfalse]
          exact .failed

variable {rounds : Nat}

theorem stable_grouped (hbody : Stable outer (Within outer 0) (body rounds [] []))
    (verbose : Bool) : Stable outer (Within outer 0) (grouped rounds verbose) := by
  refine hbody.step fun inner => stable_eat_closing rfl ?_
  refine Stable.step (stable_modify (fun _ => List.suffix_refl _) fun _ => rfl) fun _ => ?_
  exact stable_pure _

theorem stable_afterOpening
    (hbody : ∀ branches parts, Stable outer (Within outer 0) (body rounds branches parts))
    (branches parts : List Term) (verbose : Bool) (opening : Opening) :
    Stable outer (Within outer 0) (afterOpening rounds branches parts verbose opening) := by
  have hverbose (verbose : Bool) : Stable outer (Within outer 0) (modify fun state : Reading =>
      { state with verbose := verbose } : Reader Unit) :=
    stable_modify (fun _ => List.suffix_refl _) fun _ => rfl
  cases opening with
  | directive settings => exact (hverbose _).step fun _ => hbody _ _
  | group settings =>
      refine (hverbose _).step fun _ => ?_
      exact (stable_grouped (hbody _ _) _).step fun _ => hbody _ _
  | capture index => exact (stable_grouped (hbody _ _) _).step fun _ => hbody _ _

/-- What a pattern goes on with at its end, it goes on with at the parenthesis. -/
theorem bodyStep_append (outer : List Char) (rounds : Nat) (branches parts : List Term)
    (text : List Char) : bodyStep rounds branches parts (text ++ ')' :: outer) =
      bodyStep rounds branches parts text := by
  fun_cases bodyStep rounds branches parts text
  case case14 => simp only [List.cons_append, bodyStep]
  all_goals rfl

/-- From a brace that cannot be read as a count before the parenthesis, what is read of a pattern
does not come back to the parenthesis. -/
theorem Stuck.within_body {state after : Reading} {branches parts : List Term} {term : Term}
    (hstuck : Stuck outer state)
    (hrun : (body rounds branches parts).run state = some (term, after)) :
    Within outer 0 term after := by
  obtain ⟨⟨text, hrest⟩, hadvance⟩ := hstuck
  have hspace : skipSpace.run state = some ((), state) := by
    obtain ⟨_, verbose, captures, names⟩ := state
    cases hrest
    cases verbose <;> rfl
  cases rounds with
  | zero => cases hrun
  | succ rounds =>
      rw [body_succ, StateT.run_bind, hspace] at hrun
      replace hrun :
          (bodyStep rounds branches parts state.rest).run state = some (term, after) := hrun
      rw [hrest] at hrun
      obtain ⟨⟨low, high, greedy⟩, counted, hcounts, hrun⟩ := run_bind_eq_some hrun
      obtain ⟨others, repeated, hrepeat, hrun⟩ := run_bind_eq_some hrun
      rw [counts_eq] at hcounts
      obtain ⟨_, advanced, hadvanced, hcounts⟩ := run_bind_eq_some hcounts
      obtain ⟨_, between, hcount, hcounts⟩ := run_bind_eq_some hcounts
      obtain ⟨_, bounded, hupper, hclose⟩ := run_bind_eq_some hcounts
      have := hadvance _ hadvanced
      have := shrinks_count.length_le hcount
      have := (shrinks_upper _).length_le hupper
      have := (shrinks_closeCounts _ _).length_le hclose
      have := (shrinks_repeatLast _ _ _ _).length_le hrepeat
      have := (shrinks_body _ _ _).length_le hrun
      unfold Within
      omega

theorem stable_bodyStep
    (hbody : ∀ branches parts, Stable outer (Within outer 0) (body rounds branches parts))
    (branches parts : List Term) (text : List Char) :
    Stable outer (Within outer 0) (bodyStep rounds branches parts text) := by
  have hrepeat (low : Nat) (high : Option Nat) (greedy : Bool) :
      Stable outer (Within outer 0) (repeatLast parts low high greedy >>= body rounds branches) :=
    Stable.step (stable_repeatLast _ _ _ _) fun _ => hbody _ _
  have hmark (low : Nat) (high : Option Nat) : Stable outer (Within outer 0) (do
      bump 1
      let isLazy ← eat ['?']
      body rounds branches (← repeatLast parts low high !isLazy)) :=
    (stable_bump 1).step fun _ => (stable_eat (by decide)).step fun _ => hrepeat _ _ _
  have hchar (part : Term) :
      Stable outer (Within outer 0) (do bump 1; body rounds branches (parts ++ [part])) :=
    (stable_bump 1).step fun _ => hbody _ _
  fun_cases bodyStep rounds branches parts text
  · exact stable_pure _
  · exact stable_pure _
  · exact (stable_bump 1).step fun _ => hbody _ _
  · have hopening (verbose : Bool) : Stable outer (Within outer 0)
        (opening >>= afterOpening rounds branches parts verbose) :=
      stable_opening.step fun _ => stable_afterOpening hbody _ _ _ _
    constructor
    · exact shrinks_first shrinks_get fun state => (hopening state.verbose).shrinks
    · exact fun state => (hopening state.verbose).alike state
  · exact stable_bracketed.step fun _ => hbody _ _
  iterate 3 exact hmark _ _
  · exact stable_counts.step fun _ => hrepeat _ _ _
  · refine stable_escape.bind (fun _ => hbody _ _) ?_
    rintro single between term after (hwithin | ⟨-, hstuck⟩) hrun
    · exact Nat.le_trans ((hbody _ _).shrinks.length_le hrun) hwithin
    · exact hstuck.within_body hrun
  all_goals exact hchar _

/-- A pattern, or what stands in a group, reads the same with a closing parenthesis behind it. -/
theorem stable_body (outer : List Char) (rounds : Nat) (branches parts : List Term) :
    Stable outer (Within outer 0) (body rounds branches parts) := by
  induction rounds generalizing branches parts with
  | zero => exact stable_failure
  | succ rounds ih =>
      rw [body_succ]
      refine stable_skipSpace.step fun _ => ?_
      constructor
      · exact shrinks_first shrinks_get fun _ => (stable_bodyStep ih _ _ _).shrinks
      · intro state
        rw [run_get_bind, run_get_bind, Reading.rest_closedBy, bodyStep_append]
        exact (stable_bodyStep ih _ _ _).alike state

end TokenTree.Pattern.Reader
