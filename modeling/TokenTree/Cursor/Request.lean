import TokenTree.Cursor

/-!
# Requests to a cursor

Every operation that a user of a cursor has, as a value. `Request.Answer` is the type of what the
operation returns, and `Request.run` performs it: the answer, and the cursor afterwards. A run of
any length is a list of requests, and a program that reads a cursor is a tree of them (see
`TokenTree.Script`).
-/

namespace TokenTree

/-- One operation on a cursor with its arguments. -/
inductive Request where
  | scan (expected : Option Kind)
  | check (expected : Option Kind)
  | skip (expected : Option Kind)
  | scanGroup (group : Group)
  | checkGroup (group : Group)
  | scanUntil (kind : Kind)
  | checkUntil (kind : Kind)
  | skipUntil (kind : Kind)
  | peek (count : Nat)
  | rest
  | items
  | current
  | clear
  | unscan
  | pos
  | length
  | isAtEnd
  | isEmpty
  /-- A copy of the whole cursor. -/
  | copy

namespace Request

/-- What each operation returns on a cursor over items of type `ι`. -/
abbrev Answer (ι : Type) : Request → Type
  | scan _ | check _ | scanGroup _ | checkGroup _ => Except Error ι
  | skip _ => Except Error Nat
  | scanUntil _ | checkUntil _ | peek _ | rest | items => List ι
  | skipUntil _ | pos | length => Nat
  | current => Option ι
  | clear | unscan => Unit
  | isAtEnd | isEmpty => Bool
  | copy => Cursor ι

/-- The answer of an operation that may fail; where it fails the cursor stays. -/
def settle {ι α : Type} (cursor : Cursor ι) :
    Except Error (α × Cursor ι) → Except Error α × Cursor ι
  | .ok (value, after) => (.ok value, after)
  | .error cause => (.error cause, cursor)

variable {ι : Type} [Kinded ι]

/-- Perform an operation. -/
def run (cursor : Cursor ι) : (request : Request) → request.Answer ι × Cursor ι
  | scan expected => settle cursor (cursor.scan expected)
  | check expected => (cursor.check expected, cursor)
  | skip expected => settle cursor (cursor.skip expected)
  | scanGroup group => settle cursor (cursor.scanGroup group)
  | checkGroup group => (cursor.checkGroup group, cursor)
  | scanUntil kind => cursor.scanUntil kind
  | checkUntil kind => (cursor.checkUntil kind, cursor)
  | skipUntil kind => cursor.skipUntil kind
  | peek count => (cursor.peek count, cursor)
  | rest => (cursor.rest, cursor)
  | items => (cursor.items, cursor)
  | current => (cursor.current?, cursor)
  | clear => ((), cursor.clear)
  | unscan => ((), cursor.unscan)
  | pos => (cursor.pos, cursor)
  | length => (cursor.length, cursor)
  | isAtEnd => (cursor.isAtEnd, cursor)
  | isEmpty => (cursor.isEmpty, cursor)
  | copy => (cursor, cursor)

/-- The cursor after a run of operations, whatever they answer. -/
def runAll (cursor : Cursor ι) (requests : List Request) : Cursor ι :=
  requests.foldl (fun cursor request => (request.run cursor).2) cursor

/-- No operation changes an item. -/
theorem items_run (cursor : Cursor ι) (request : Request) :
    (request.run cursor).2.items = cursor.items := by
  have hcheck (expected : Option Kind) (pos : Nat) :
      (settle cursor ((cursor.check expected).map fun item => (item, cursor.advanceTo pos))).2.items
        = cursor.items := by
    cases cursor.check expected <;> rfl
  have hskip (expected : Option Kind) (pos : Nat) :
      (settle cursor ((cursor.check expected).map fun _ => (pos, cursor.advanceTo pos))).2.items
        = cursor.items := by
    cases cursor.check expected <;> rfl
  have hgroup (group : Group) (pos : Nat) :
      (settle cursor ((cursor.checkGroup group).map fun item =>
        (item, cursor.advanceTo pos))).2.items = cursor.items := by
    cases cursor.checkGroup group <;> rfl
  cases request with
  | scan expected => exact hcheck expected _
  | skip expected => exact hskip expected _
  | scanGroup group => exact hgroup group _
  | unscan =>
      show cursor.unscan.items = cursor.items
      unfold Cursor.unscan
      split <;> rfl
  | _ => rfl

/-- Operations never lead before a floor that the position and the saved position are above. -/
theorem floor_run (cursor : Cursor ι) (request : Request) {floor : Nat}
    (hpos : floor ≤ cursor.pos) (hsaved : ∀ pos, cursor.saved = some pos → floor ≤ pos)
    (hlength : floor ≤ cursor.length) :
    floor ≤ (request.run cursor).2.pos ∧
      ∀ pos, (request.run cursor).2.saved = some pos → floor ≤ pos := by
  have hadvance (pos : Nat) (hle : cursor.pos ≤ pos) :
      floor ≤ (cursor.advanceTo pos).pos ∧
        ∀ saved, (cursor.advanceTo pos).saved = some saved → floor ≤ saved := by
    refine ⟨Nat.le_trans hpos hle, fun saved hs => ?_⟩
    simp only [Cursor.advanceTo, Option.some.injEq] at hs
    omega
  have hsettle {α : Type} (outcome : Except Error α) (pos : Nat) (hle : cursor.pos ≤ pos) :
      floor ≤ (settle cursor (outcome.map fun value => (value, cursor.advanceTo pos))).2.pos ∧
        ∀ saved, (settle cursor (outcome.map fun value => (value, cursor.advanceTo pos))).2.saved
          = some saved → floor ≤ saved := by
    cases outcome with
    | ok _ => exact hadvance pos hle
    | error _ => exact ⟨hpos, hsaved⟩
  cases request with
  | scan expected => exact hsettle (cursor.check expected) _ (Nat.le_succ _)
  | scanGroup group => exact hsettle (cursor.checkGroup group) _ (Nat.le_succ _)
  | skip expected =>
      show floor ≤ (settle cursor (cursor.skip expected)).2.pos ∧
        ∀ saved, (settle cursor (cursor.skip expected)).2.saved = some saved → floor ≤ saved
      unfold Cursor.skip
      cases cursor.check expected with
      | ok _ => exact hadvance _ (Nat.le_succ _)
      | error _ => exact ⟨hpos, hsaved⟩
  | scanUntil kind => exact hadvance _ (Nat.le_add_right _ _)
  | skipUntil kind => exact hadvance _ (Nat.le_add_right _ _)
  | clear => exact ⟨hlength, hsaved⟩
  | unscan =>
      show floor ≤ cursor.unscan.pos ∧
        ∀ saved, cursor.unscan.saved = some saved → floor ≤ saved
      unfold Cursor.unscan
      split
      · next pos hs => exact ⟨hsaved pos hs, by simp⟩
      · exact ⟨hpos, hsaved⟩
  | _ => exact ⟨hpos, hsaved⟩

end Request

end TokenTree
