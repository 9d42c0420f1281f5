import TokenTree.Proofs.Pattern.Consumption

/-!
# Bounds on rounds

The loops of the reader take a bound on their rounds. Each round that goes on passes over a
character at least, so that any bound above the length of the text gives the same: what is read does
not depend on it.
-/

namespace TokenTree.Pattern.Reader

variable {α β : Type}

/-- Any two bounds above the length of the text give the same. -/
def IgnoresBound (loop : Nat → Reader α) : Prop :=
  ∀ state first second, state.rest.length < first → state.rest.length < second →
    (loop first).run state = (loop second).run state

/-- A loop ignores its bound if each round leaves less text to the rounds after it. The index holds
what a round passes on. -/
theorem ignoresBound_of_round {ι : Type} (loop : ι → Nat → Reader α)
    (hround : ∀ index state first second,
      (∀ later shorter, shorter.rest.length < state.rest.length →
        (loop later first).run shorter = (loop later second).run shorter) →
      (loop index (first + 1)).run state = (loop index (second + 1)).run state)
    (index : ι) : IgnoresBound (loop index) := by
  intro state first
  induction first generalizing state index with
  | zero => exact fun _ hfirst => absurd hfirst (Nat.not_lt_zero _)
  | succ first ih =>
      intro second hfirst hsecond
      obtain ⟨second, rfl⟩ := Nat.exists_eq_add_one_of_ne_zero (Nat.ne_zero_of_lt hsecond)
      refine hround _ _ _ _ fun later shorter hshorter => ?_
      exact ih _ _ _ (by omega) (by omega)

/-- What is read after a loop has no part in its bound. -/
theorem IgnoresBound.bind {loop : Nat → Reader α} (hloop : IgnoresBound loop)
    (next : α → Reader β) : IgnoresBound fun count => loop count >>= next :=
  fun state first second hfirst hsecond =>
    run_bind_congr (hloop state first second hfirst hsecond) fun _ _ _ => rfl

theorem run_peek?_eq_some {state after : Reading} {next : Option Char}
    (hrun : peek?.run state = some (next, after)) : next = state.rest.head? ∧ after = state := by
  cases hrun
  exact ⟨rfl, rfl⟩

/-- A character that was looked at is left. -/
theorem length_pos_of_peek? {state after : Reading} {c : Char}
    (hrun : peek?.run state = some (some c, after)) : after = state ∧ 0 < state.rest.length := by
  obtain ⟨hhead, rfl⟩ := run_peek?_eq_some hrun
  exact ⟨rfl, List.length_pos_of_mem (List.mem_of_head? hhead.symm)⟩

theorem ignoresBound_collect (accept : Char → Bool) : IgnoresBound (collect accept) := by
  refine ignoresBound_of_round (fun _ => collect accept) (fun _ state first second ih => ?_) ()
  rw [collect, collect]
  refine run_bind_congr rfl fun next after hpeek => ?_
  cases next with
  | none => rfl
  | some c =>
      obtain ⟨rfl, hpos⟩ := length_pos_of_peek? hpeek
      dsimp only
      split
      · refine run_bind_congr rfl fun _ advanced hadvance => ?_
        have := shrinks_advance.length_le hadvance
        exact run_bind_congr (ih () _ (by omega)) fun _ _ _ => rfl
      · rfl

theorem ignoresBound_untilBrace : IgnoresBound untilBrace := by
  refine ignoresBound_of_round (fun _ => untilBrace) (fun _ state first second ih => ?_) ()
  rw [untilBrace, untilBrace]
  refine run_bind_congr rfl fun next after hpeek => ?_
  cases next with
  | none => rfl
  | some c =>
      obtain ⟨rfl, hpos⟩ := length_pos_of_peek? hpeek
      dsimp only
      split
      · rfl
      · refine run_bind_congr rfl fun _ advanced hadvance => ?_
        have := shrinks_advance.length_le hadvance
        exact run_bind_congr (ih () _ (by omega)) fun _ _ _ => rfl

theorem ignoresBound_hyphens : IgnoresBound hyphens := by
  refine ignoresBound_of_round (fun _ => hyphens) (fun _ state first second ih => ?_) ()
  rw [hyphens, hyphens]
  refine run_bind_congr rfl fun next after hpeek => ?_
  cases next with
  | none => rfl
  | some c =>
      obtain ⟨rfl, hpos⟩ := length_pos_of_peek? hpeek
      split
      · refine run_bind_congr rfl fun _ advanced hadvance => ?_
        refine run_bind_congr rfl fun _ between hmore => ?_
        have := shrinks_advance.length_le hadvance
        have := shrinks_more.length_le hmore
        exact run_bind_congr (ih () _ (by omega)) fun _ _ _ => rfl
      · rfl

theorem ignoresBound_flags (negated : Bool) (settings : Settings) :
    IgnoresBound (flags · negated settings) := by
  refine ignoresBound_of_round (fun (index : Bool × Settings) => (flags · index.1 index.2))
    (fun index state first second ih => ?_) (negated, settings)
  have hlater (negated : Bool) (settings : Settings) (shorter : Reading)
      (hlt : shorter.rest.length < state.rest.length) :
      (flags first negated settings).run shorter = (flags second negated settings).run shorter :=
    ih (negated, settings) shorter hlt
  rw [flags, flags]
  refine run_bind_congr rfl fun next after hpeek => ?_
  cases next with
  | none => rfl
  | some c =>
      obtain ⟨rfl, hpos⟩ := length_pos_of_peek? hpeek
      dsimp only
      split
      · rfl
      refine run_bind_congr rfl fun _ bumped hbump => ?_
      have := (shrinks_bump _).length_le hbump
      split
      · refine run_bind_congr rfl fun next between hpeek => ?_
        obtain ⟨-, rfl⟩ := run_peek?_eq_some hpeek
        split
        · rfl
        · exact hlater _ _ _ (by omega)
      · split
        · split
          · rfl
          · exact hlater _ _ _ (by omega)
        · rfl

/-- A round of a set that is not at its end leaves less text to the rounds after it. -/
theorem run_setStep_congr {first second : Nat} {state : Reading} (hpos : 0 < state.rest.length)
    (hlater : ∀ pending items shorter, shorter.rest.length < state.rest.length →
      (setBody first pending items).run shorter = (setBody second pending items).run shorter)
    (pending : Option (SetOp × SetTerm)) (items : List SetTerm) (text : List Char) :
    (setStep first pending items text).run state =
      (setStep second pending items text).run state := by
  have hbump (pending : Option (SetOp × SetTerm)) :
      (bump 2 >>= fun _ => setBody first pending []).run state =
        (bump 2 >>= fun _ => setBody second pending []).run state := by
    refine run_bind_congr rfl fun _ bumped hbump => ?_
    have := (shrinks_bump _).length_le hbump
    exact hlater _ _ _ (by omega)
  unfold setStep
  split
  · rfl
  · refine run_bind_congr rfl fun found between hfound => ?_
    obtain ⟨rfl, rfl⟩ | ⟨hsome, -, hlt⟩ := rest_of_posix? hfound
    · refine run_bind_congr rfl fun opened inner hopened => ?_
      have := shrinks_openSet.length_le hopened
      refine run_bind_congr (hlater _ _ _ (by omega)) fun body closed hbody => ?_
      have := (shrinks_setBody _ _ _).length_le hbody
      exact hlater _ _ _ (by omega)
    · obtain ⟨item, rfl⟩ := Option.isSome_iff_exists.1 hsome
      exact hlater _ _ _ hlt
  · rfl
  iterate 3 exact hbump _
  · refine run_bind_congr rfl fun item between hitem => ?_
    have := shrinks_setRange.length_le hitem
    exact hlater _ _ _ (by omega)

theorem ignoresBound_setBody (pending : Option (SetOp × SetTerm)) (items : List SetTerm) :
    IgnoresBound (setBody · pending items) := by
  refine ignoresBound_of_round
    (fun (index : Option (SetOp × SetTerm) × List SetTerm) => (setBody · index.1 index.2))
    (fun index state first second ih => ?_) (pending, items)
  obtain ⟨pending, items⟩ := index
  dsimp only
  rw [setBody_succ, setBody_succ]
  refine run_bind_congr rfl fun _ spaced hspace => run_bind_congr rfl fun _ _ hget => ?_
  cases hget
  have := shrinks_skipSpace.length_le hspace
  obtain hnil | hpos := Nat.eq_zero_or_pos spaced.rest.length
  · rw [List.eq_nil_of_length_eq_zero hnil]
    rfl
  · exact run_setStep_congr hpos (fun pending items shorter hlt =>
      ih (pending, items) shorter (by omega)) _ _ _

/-- A round of a pattern that is not at its end leaves less text to the rounds after it. -/
theorem run_bodyStep_congr {first second : Nat} {state : Reading} (hpos : 0 < state.rest.length)
    (hlater : ∀ branches parts shorter, shorter.rest.length < state.rest.length →
      (body first branches parts).run shorter = (body second branches parts).run shorter)
    (branches parts : List Term) (text : List Char) :
    (bodyStep first branches parts text).run state =
      (bodyStep second branches parts text).run state := by
  have hrepeat (low : Nat) (high : Option Nat) (greedy : Bool) (after : Reading)
      (hlt : after.rest.length < state.rest.length) :
      (repeatLast parts low high greedy >>= body first branches).run after =
        (repeatLast parts low high greedy >>= body second branches).run after := by
    refine run_bind_congr rfl fun others between hothers => ?_
    have := (shrinks_repeatLast _ _ _ _).length_le hothers
    exact hlater _ _ _ (by omega)
  have hgrouped (verbose : Bool) (group : Term → Term) (after : Reading)
      (hlt : after.rest.length < state.rest.length) :
      (grouped first verbose >>= fun inner => body first branches (parts ++ [group inner])).run
        after = (grouped second verbose >>= fun inner =>
          body second branches (parts ++ [group inner])).run after := by
    have hsame : (grouped first verbose).run after = (grouped second verbose).run after :=
      run_bind_congr (hlater _ _ _ hlt) fun _ _ _ => rfl
    refine run_bind_congr hsame fun inner between hinner => ?_
    have := shrinks_grouped (shrinks_body first [] []) _ _ _ _ hinner
    exact hlater _ _ _ (by omega)
  have hbump (branches parts : List Term) :
      (bump 1 >>= fun _ => body first branches parts).run state =
        (bump 1 >>= fun _ => body second branches parts).run state := by
    refine run_bind_congr rfl fun _ bumped hbump => ?_
    have := (shrinks_bump _).length_le hbump
    exact hlater _ _ _ (by omega)
  unfold bodyStep
  split
  · rfl
  · rfl
  · exact hbump _ _
  · refine run_bind_congr rfl fun _ _ hget => ?_
    cases hget
    refine run_bind_congr rfl fun opening opened hopened => ?_
    have := shrinks_opening.length_le hopened
    have hlt : opened.rest.length < state.rest.length := by omega
    cases opening with
    | directive settings =>
        refine run_bind_congr rfl fun _ restored hrestored => ?_
        cases hrestored
        exact hlater _ _ _ hlt
    | group settings =>
        refine run_bind_congr rfl fun _ restored hrestored => ?_
        cases hrestored
        exact hgrouped _ (.group settings) _ hlt
    | capture index => exact hgrouped _ (.capture index) _ hlt
  · refine run_bind_congr rfl fun set between hset => ?_
    have := shrinks_bracketed.length_le hset
    exact hlater _ _ _ (by omega)
  iterate 3
    · refine run_bind_congr rfl fun _ bumped hbump => run_bind_congr rfl fun _ between heat => ?_
      have := (shrinks_bump _).length_le hbump
      have := (shrinks_eat _).length_le heat
      exact hrepeat _ _ _ _ (by omega)
  · refine run_bind_congr rfl fun bounds between hbounds => ?_
    have := shrinks_counts.length_le hbounds
    exact hrepeat _ _ _ _ (by omega)
  · refine run_bind_congr rfl fun single between hsingle => ?_
    have := shrinks_escape.length_le hsingle
    exact hlater _ _ _ (by omega)
  all_goals exact hbump _ _

theorem ignoresBound_body (branches parts : List Term) :
    IgnoresBound (body · branches parts) := by
  refine ignoresBound_of_round
    (fun (index : List Term × List Term) => (body · index.1 index.2))
    (fun index state first second ih => ?_) (branches, parts)
  obtain ⟨branches, parts⟩ := index
  dsimp only
  rw [body_succ, body_succ]
  refine run_bind_congr rfl fun _ spaced hspace => run_bind_congr rfl fun _ _ hget => ?_
  cases hget
  have := shrinks_skipSpace.length_le hspace
  obtain hnil | hpos := Nat.eq_zero_or_pos spaced.rest.length
  · rw [List.eq_nil_of_length_eq_zero hnil]
    rfl
  · exact run_bodyStep_congr hpos (fun branches parts shorter hlt =>
      ih (branches, parts) shorter (by omega)) _ _ _

end TokenTree.Pattern.Reader
