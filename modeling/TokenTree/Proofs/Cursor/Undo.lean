import Mathlib.Data.List.Induction
import TokenTree.Proofs.Cursor.Bounds

/-!
# Where going back leads

A cursor keeps one saved position and nothing of the operations that left it there. Here the way
back is read off those operations: of all that was done since the cursor last went back, the last
one that succeeded in reading on, and the position before it (`undoPoint?`). The history of a run is
looked at from its end, and whatever stands in it behind that operation has no part in where
`unscan` leads (`runAll_unscan`).
-/

namespace TokenTree.Request

variable {ι : Type} [Kinded ι]

/-! ## The history of a run -/

/-- The operation is one of those that move past what they find. -/
def readsOn : Request → Bool
  | scan _ | skip _ | scanGroup _ | scanUntil _ | skipUntil _ => true
  | _ => false

/-- The operation goes back to the saved position. -/
def undoes : Request → Bool
  | unscan => true
  | _ => false

/-- The operation reads on, and its answer is no cause of failure. -/
def succeeds (cursor : Cursor ι) (request : Request) : Bool :=
  request.readsOn && !request.refused (request.run cursor).1

/-- The operations of a run, each with the cursor that it was performed on, the last one first. -/
def history (cursor : Cursor ι) : List Request → List (Cursor ι × Request)
  | [] => []
  | request :: others => history (request.run cursor).2 others ++ [(cursor, request)]

/-- The position before the last operation of a run that succeeded in reading on, among those since
the cursor last went back. -/
def undoPoint? (cursor : Cursor ι) (requests : List Request) : Option Nat :=
  let sinceUndone := (history cursor requests).takeWhile fun entry => !entry.2.undoes
  (sinceUndone.find? fun entry => entry.2.succeeds entry.1).map fun entry => entry.1.pos

variable {cursor : Cursor ι} {request : Request}

/-- An operation that reads on moves the cursor exactly if its answer is no cause. -/
theorem succeeds_eq_advances (cursor : Cursor ι) (request : Request) :
    request.succeeds cursor = request.advances cursor := by
  have hsettle {α β : Type} (outcome : Except Error α) (value : α → β × Cursor ι) :
      (!!(settle cursor (outcome.map value)).1.isOk) = outcome.isOk := by
    cases outcome <;> rfl
  cases request with
  | scan expected => exact hsettle (cursor.check expected) _
  | skip expected => exact hsettle (cursor.check expected) _
  | scanGroup group => exact hsettle (cursor.checkGroup group) _
  | _ => rfl

/-- A run of two parts has the history of the second part before that of the first. -/
theorem history_append (cursor : Cursor ι) (requests others : List Request) :
    history cursor (requests ++ others) =
      history (runAll cursor requests) others ++ history cursor requests := by
  induction requests generalizing cursor with
  | nil => exact (List.append_nil _).symm
  | cons request requests ih =>
      rw [List.cons_append, history, ih, List.append_assoc, history, runAll_cons]

/-- One more operation comes first in the history. -/
theorem history_concat (cursor : Cursor ι) (requests : List Request) (request : Request) :
    history cursor (requests ++ [request]) =
      (runAll cursor requests, request) :: history cursor requests :=
  history_append cursor requests [request]

/-! ## The saved position -/

/-- What one operation does to the saved position. -/
theorem saved_run (cursor : Cursor ι) (request : Request) :
    (request.run cursor).2.saved =
      if request.undoes then none
      else if request.succeeds cursor then some cursor.pos
      else cursor.saved := by
  by_cases hundoes : request.undoes = true
  · rw [if_pos hundoes]
    cases request with
    | unscan => exact Cursor.saved_unscan cursor
    | _ => cases hundoes
  rw [if_neg hundoes, succeeds_eq_advances]
  have heffect := effect_run cursor request
  generalize (request.run cursor).2 = after at heffect
  cases heffect with
  | advance hadvances => rw [if_pos hadvances]; rfl
  | clear => rfl
  | unscan => exact absurd rfl hundoes
  | stay hstays => rw [hstays]; rfl

/-- What one more operation does to the place that the history tells to go back to. -/
theorem undoPoint?_concat (cursor : Cursor ι) (requests : List Request) (request : Request) :
    undoPoint? cursor (requests ++ [request]) =
      if request.undoes then none
      else if request.succeeds (runAll cursor requests) then some (runAll cursor requests).pos
      else undoPoint? cursor requests := by
  rw [undoPoint?, history_concat]
  cases hundoes : request.undoes with
  | true => simp [hundoes]
  | false =>
      cases hsucceeds : request.succeeds (runAll cursor requests) with
      | true => simp [hundoes, hsucceeds]
      | false => simp [hundoes, hsucceeds, undoPoint?]

/-- A run on a cursor without a saved position saves the one that its history tells. -/
theorem saved_runAll (hsaved : cursor.saved = none) (requests : List Request) :
    (runAll cursor requests).saved = undoPoint? cursor requests := by
  -- On the run from its end, where both change by the same rule.
  induction requests using List.reverseRecOn with
  | nil => exact hsaved
  | append_singleton requests request ih =>
      rw [runAll_concat, saved_run, undoPoint?_concat, ih]

/-- Operations that neither read on with success nor go back leave the place to go back to. -/
theorem undoPoint?_append (requests : List Request) {others : List Request}
    (hothers : ∀ entry ∈ history (runAll cursor requests) others,
      entry.2.undoes = false ∧ entry.2.succeeds entry.1 = false) :
    undoPoint? cursor (requests ++ others) = undoPoint? cursor requests := by
  have hkeeps : ∀ entry ∈ history (runAll cursor requests) others, (!entry.2.undoes) = true :=
    fun entry hmem => by rw [(hothers entry hmem).1]; rfl
  have hnone : (history (runAll cursor requests) others).find?
      (fun entry => entry.2.succeeds entry.1) = none :=
    List.find?_eq_none.2 fun entry hmem => by simp [(hothers entry hmem).2]
  rw [undoPoint?, history_append, List.takeWhile_append_of_pos hkeeps, List.find?_append, hnone]
  rfl

/-! ## Going back -/

/-- Going back leads to the position before the last operation that succeeded in reading on since
the cursor last went back, and nowhere if there is none. Whatever is done between that operation and
going back, be it an operation that fails or one that does not read on, makes no difference; and
going through the next item of a kind is a success even at the end, which is then where going back
leads. -/
theorem runAll_unscan (items : List ι) (requests : List Request) :
    (runAll (.ofList items) (requests ++ [unscan]) =
      match undoPoint? (.ofList items) requests with
      | some start => ⟨items, start, none⟩
      | none => runAll (.ofList items) requests) ∧
    (∀ others : List Request,
      (∀ entry ∈ history (runAll (.ofList items) requests) others,
        entry.2.undoes = false ∧
          (entry.2.readsOn = false ∨ entry.2.refused (entry.2.run entry.1).1 = true)) →
      undoPoint? (.ofList items) (requests ++ others) = undoPoint? (.ofList items) requests) ∧
    ∀ kind, (runAll (.ofList items) requests).isAtEnd = true →
      undoPoint? (.ofList items) (requests ++ [scanUntil kind]) = some items.length ∧
      undoPoint? (.ofList items) (requests ++ [skipUntil kind]) = some items.length := by
  have hitems := items_runAll (.ofList items) requests
  have hsaved : (runAll (.ofList items) requests).saved = undoPoint? (.ofList items) requests :=
    saved_runAll rfl requests
  refine ⟨?_, fun others hothers => ?_, fun kind hend => ?_⟩
  · rw [runAll_concat]
    show (runAll (.ofList items) requests).unscan = _
    cases hpoint : undoPoint? (.ofList items) requests with
    | some start => rw [Cursor.unscan, hsaved, hpoint, hitems]; rfl
    | none => exact Cursor.unscan_of_saved_eq_none (hsaved.trans hpoint)
  · refine undoPoint?_append requests fun entry hmem => ?_
    obtain ⟨hundoes, hidle⟩ := hothers entry hmem
    refine ⟨hundoes, ?_⟩
    rw [succeeds]
    obtain hidle | hrefused := hidle
    · rw [hidle, Bool.false_and]
    · rw [hrefused, Bool.not_true, Bool.and_false]
  · have hpos : (runAll (.ofList items) requests).pos = items.length := by
      have hle := ((Cursor.reached_ofList items).runAll requests).inBounds.pos_le
      have hpast := of_decide_eq_true hend
      rw [Cursor.length, hitems] at hle hpast
      exact Nat.le_antisymm hle hpast
    rw [undoPoint?_concat, undoPoint?_concat, hpos]
    exact ⟨rfl, rfl⟩

/-- Two tokens are read, the second one through its kind. Then a read fails, the cursor is taken to
the end, and a token ahead is looked at. -/
def reads : List Request := [scan none, scanUntil ⟨"b"⟩, scan none, clear, peek 1]

/-- Behind the failure and the rest going back leads to the second token. -/
theorem runAll_unscan_reads :
    runAll (.ofList [Token.bare ⟨"a"⟩, .bare ⟨"b"⟩]) (reads ++ [unscan]) =
      ⟨[.bare ⟨"a"⟩, .bare ⟨"b"⟩], 1, none⟩ ∧
    undoPoint? (.ofList [Token.bare ⟨"a"⟩, .bare ⟨"b"⟩]) (reads ++ [scanUntil ⟨"b"⟩]) = some 2 := by
  have hpoint : undoPoint? (.ofList [Token.bare ⟨"a"⟩, .bare ⟨"b"⟩]) [scan none, scanUntil ⟨"b"⟩] =
      some 1 := by decide
  obtain ⟨-, hothers, -⟩ :=
    runAll_unscan [Token.bare ⟨"a"⟩, .bare ⟨"b"⟩] [scan none, scanUntil ⟨"b"⟩]
  have hsame := hothers [scan none, clear, peek 1] (by decide)
  obtain ⟨hback, -, hend⟩ := runAll_unscan [Token.bare ⟨"a"⟩, .bare ⟨"b"⟩] reads
  have hreads : undoPoint? (.ofList [Token.bare ⟨"a"⟩, .bare ⟨"b"⟩]) reads = some 1 :=
    hsame.trans hpoint
  rw [hreads] at hback
  exact ⟨hback, (hend ⟨"b"⟩ (by decide)).1⟩

end TokenTree.Request
