import TokenTree.Script

/-!
# What operations do to a cursor

Whatever is asked of a cursor, four things can happen to it: it moves on and saves where it was, it
is cleared, it goes back to the saved position, or it stays. `effect_run` says which operation does
what, and the facts below it are read off from that: an operation that fails leaves the cursor as it
was, positions stay between the saved one and the end, and there is something to go back to only
after an operation has moved on. A script is a run of operations, those that it asks for one after
the other.
-/

namespace TokenTree

/-! ## Cursors in bounds -/

/-- The position is among the items or at their end, and the saved one is not behind it. -/
structure Cursor.InBounds {ι : Type} (cursor : Cursor ι) : Prop where
  pos_le : cursor.pos ≤ cursor.length
  saved_le : ∀ saved, cursor.saved = some saved → saved ≤ cursor.pos

namespace Cursor

variable {ι : Type} {cursor : Cursor ι}

@[simp] theorem rest_ofList (items : List ι) : (ofList items).rest = items := rfl

/-- A new cursor is in bounds. -/
theorem inBounds_ofList (items : List ι) : (ofList items).InBounds :=
  ⟨Nat.zero_le _, fun _ hsaved => nomatch hsaved⟩

/-- Moving on, up to the end, stays in bounds: the position left is the one saved. -/
theorem inBounds_advanceTo {pos : Nat} (hle : cursor.pos ≤ pos) (hlength : pos ≤ cursor.length) :
    (cursor.advanceTo pos).InBounds := by
  refine ⟨hlength, fun saved hsaved => ?_⟩
  obtain rfl : cursor.pos = saved := Option.some.inj hsaved
  exact hle

/-- Going to the end stays in bounds. -/
theorem InBounds.clear (hbounds : cursor.InBounds) : cursor.clear.InBounds :=
  ⟨Nat.le_refl _, fun saved hsaved => Nat.le_trans (hbounds.saved_le saved hsaved) hbounds.pos_le⟩

/-- Going back does not lead forward. -/
theorem InBounds.unscan_pos_le (hbounds : cursor.InBounds) : cursor.unscan.pos ≤ cursor.pos := by
  rw [Cursor.unscan]
  split
  · next saved hsaved => exact hbounds.saved_le saved hsaved
  · exact Nat.le_refl _

/-- Nothing is saved once the cursor has gone back. -/
@[simp] theorem saved_unscan (cursor : Cursor ι) : cursor.unscan.saved = none := by
  rw [unscan]
  split
  · rfl
  · next hsaved => exact hsaved

/-- Where nothing is saved, going back does nothing. -/
theorem unscan_of_saved_eq_none (hsaved : cursor.saved = none) : cursor.unscan = cursor := by
  rw [unscan, hsaved]

@[simp] theorem items_unscan (cursor : Cursor ι) : cursor.unscan.items = cursor.items := by
  rw [unscan]
  split <;> rfl

/-- Going back stays in bounds. -/
theorem InBounds.unscan (hbounds : cursor.InBounds) : cursor.unscan.InBounds := by
  refine ⟨?_, fun saved hsaved => ?_⟩
  · rw [length, items_unscan]
    exact Nat.le_trans hbounds.unscan_pos_le hbounds.pos_le
  · rw [saved_unscan] at hsaved
    cases hsaved

/-- Taking the current item out stays in bounds. -/
theorem inBounds_of_takeCurrent? {hole item : ι} {after : Cursor ι}
    (htake : cursor.takeCurrent? hole = some (item, after)) : after.InBounds := by
  rw [takeCurrent?, current?] at htake
  obtain ⟨found, hfound, heq⟩ := Option.map_eq_some_iff.1 htake
  obtain ⟨-, rfl⟩ := Prod.mk.inj heq
  obtain ⟨hlt, -⟩ := List.getElem?_eq_some_iff.1 hfound
  refine ⟨?_, fun saved hsaved => nomatch hsaved⟩
  rw [length, List.length_set]
  exact hlt

section Kinds

variable [Kinded ι]

/-- The item that is found is the current one. -/
theorem current?_of_check {expected : Option Kind} {item : ι}
    (hcheck : cursor.check expected = .ok item) : cursor.items[cursor.pos]? = some item := by
  cases hcurrent : cursor.current? with
  | some found =>
      cases expected with
      | none =>
          rw [check, hcurrent] at hcheck
          cases hcheck
          exact hcurrent
      | some kind =>
          simp only [check, hcurrent] at hcheck
          split at hcheck
          · cases hcheck
            exact hcurrent
          · cases hcheck
  | none => cases expected <;> simp [check, hcurrent] at hcheck

/-- The member of a group that is found is the current item. -/
theorem current?_of_checkGroup {group : Group} {item : ι}
    (hcheck : cursor.checkGroup group = .ok item) : cursor.items[cursor.pos]? = some item := by
  cases hcurrent : cursor.current? with
  | some found =>
      simp only [checkGroup, hcurrent] at hcheck
      split at hcheck
      · cases hcheck
        exact hcurrent
      · cases hcheck
  | none => simp [checkGroup, hcurrent] at hcheck

/-- The items through the first one of a kind come first. -/
theorem prefix_upTo (kind : Kind) (items : List ι) : upTo kind items <+: items := by
  induction items with
  | nil => exact List.prefix_refl _
  | cons item rest ih =>
      rw [upTo]
      split
      · exact ⟨rest, rfl⟩
      · exact List.cons_prefix_cons.2 ⟨rfl, ih⟩

/-- The items through the next one of a kind end where the items do, or before. -/
theorem pos_add_checkUntil_le (kind : Kind) (hle : cursor.pos ≤ cursor.length) :
    cursor.pos + (cursor.checkUntil kind).length ≤ cursor.length := by
  have hupTo := (prefix_upTo kind cursor.rest).length_le
  rw [rest, List.length_drop] at hupTo
  rw [checkUntil, rest, length] at *
  omega

end Kinds

end Cursor

namespace Request

variable {ι : Type} [Kinded ι] {cursor after : Cursor ι} {request : Request}

/-! ## One operation -/

/-- The operation succeeds in moving on, so that it saves where the cursor was. -/
def advances (cursor : Cursor ι) : Request → Bool
  | scan expected | skip expected => (cursor.check expected).isOk
  | scanGroup group => (cursor.checkGroup group).isOk
  | scanUntil _ | skipUntil _ => true
  | _ => false

/-- The answer is a cause of failure. -/
def refused : (request : Request) → request.Answer ι → Bool
  | scan _, answer | check _, answer | scanGroup _, answer | checkGroup _, answer =>
      !Except.isOk answer
  | skip _, answer => !Except.isOk answer
  | _, _ => false

/-- What an operation can do to a cursor. -/
inductive Effect (cursor : Cursor ι) : Request → Cursor ι → Prop where
  /-- It moves on, and not past the end. -/
  | advance {request : Request} {pos : Nat} (hadvances : request.advances cursor = true)
      (hle : cursor.pos ≤ pos) (hlength : cursor.pos ≤ cursor.length → pos ≤ cursor.length) :
      Effect cursor request (cursor.advanceTo pos)
  | clear : Effect cursor .clear cursor.clear
  | unscan : Effect cursor .unscan cursor.unscan
  | stay {request : Request} (hstays : request.advances cursor = false) :
      Effect cursor request cursor

/-- Whatever is asked, the cursor afterwards is one of these. -/
theorem effect_run (cursor : Cursor ι) (request : Request) :
    Effect cursor request (request.run cursor).2 := by
  -- An operation on the current item moves past it exactly where it finds what it looks for.
  have hsettle {β : Type} (outcome : Except Error ι) (answer : ι → β) {request : Request}
      (hadvances : request.advances cursor = outcome.isOk)
      (hcurrent : ∀ item, outcome = .ok item → cursor.items[cursor.pos]? = some item) :
      Effect cursor request
        (settle cursor (outcome.map fun item =>
          (answer item, cursor.advanceTo (cursor.pos + 1)))).2 := by
    cases outcome with
    | ok item =>
        obtain ⟨hlt, -⟩ := List.getElem?_eq_some_iff.1 (hcurrent item rfl)
        exact .advance hadvances (Nat.le_succ _) fun _ => hlt
    | error cause => exact .stay hadvances
  cases request with
  | scan expected =>
      exact hsettle (cursor.check expected) id rfl fun _ => Cursor.current?_of_check
  | skip expected =>
      exact hsettle (cursor.check expected) (fun _ => cursor.pos + 1) rfl fun _ =>
        Cursor.current?_of_check
  | scanGroup group =>
      exact hsettle (cursor.checkGroup group) id rfl fun _ => Cursor.current?_of_checkGroup
  | scanUntil kind | skipUntil kind =>
      exact .advance rfl (Nat.le_add_right _ _) (Cursor.pos_add_checkUntil_le kind)
  | clear => exact .clear
  | unscan => exact .unscan
  | _ => exact .stay rfl

/-- An operation that fails leaves the cursor as it was. -/
theorem run_of_refused (hrefused : request.refused (request.run cursor).1 = true) :
    (request.run cursor).2 = cursor := by
  have hsettle {α : Type} (outcome : Except Error (α × Cursor ι))
      (herror : (!(settle cursor outcome).1.isOk) = true) : (settle cursor outcome).2 = cursor := by
    cases outcome with
    | ok pair => cases herror
    | error cause => rfl
  cases request with
  | scan expected => exact hsettle (cursor.scan expected) hrefused
  | skip expected => exact hsettle (cursor.skip expected) hrefused
  | scanGroup group => exact hsettle (cursor.scanGroup group) hrefused
  | check | checkGroup => rfl
  | _ => cases hrefused

/-- An operation keeps a cursor in bounds. -/
theorem inBounds_run (hbounds : cursor.InBounds) (request : Request) :
    (request.run cursor).2.InBounds := by
  have heffect := effect_run cursor request
  generalize (request.run cursor).2 = after at heffect
  cases heffect with
  | advance _ hle hlength => exact Cursor.inBounds_advanceTo hle (hlength hbounds.pos_le)
  | clear => exact hbounds.clear
  | unscan => exact hbounds.unscan
  | stay => exact hbounds

/-- Where nothing is saved, only an operation that moves on saves a position. -/
theorem saved_run_eq_none (hsaved : cursor.saved = none)
    (hstays : request.advances cursor = false) : (request.run cursor).2.saved = none := by
  have heffect := effect_run cursor request
  generalize (request.run cursor).2 = after at heffect
  cases heffect with
  | advance hadvances => simp [hstays] at hadvances
  | clear => exact hsaved
  | unscan => exact Cursor.saved_unscan cursor
  | stay => exact hsaved

/-! ## Runs of operations -/

/-- Some operation of the run succeeds in moving on when its turn comes. -/
def anyAdvances (cursor : Cursor ι) : List Request → Bool
  | [] => false
  | request :: others => request.advances cursor || anyAdvances (request.run cursor).2 others

@[simp] theorem runAll_cons (cursor : Cursor ι) (request : Request) (others : List Request) :
    runAll cursor (request :: others) = runAll (request.run cursor).2 others := rfl

/-- One more operation at the end of a run. -/
theorem runAll_concat (cursor : Cursor ι) (requests : List Request) (request : Request) :
    runAll cursor (requests ++ [request]) = (request.run (runAll cursor requests)).2 := by
  rw [runAll, List.foldl_append]
  rfl

/-- A run leaves the items alone. -/
theorem items_runAll (cursor : Cursor ι) (requests : List Request) :
    (runAll cursor requests).items = cursor.items := by
  induction requests generalizing cursor with
  | nil => rfl
  | cons request others ih => rw [runAll_cons, ih, items_run]

/-- A run does not lead before a floor that the position and the saved position are above. -/
theorem floor_runAll {floor : Nat} (requests : List Request) (hpos : floor ≤ cursor.pos)
    (hsaved : ∀ saved, cursor.saved = some saved → floor ≤ saved)
    (hlength : floor ≤ cursor.length) :
    floor ≤ (runAll cursor requests).pos ∧
      ∀ saved, (runAll cursor requests).saved = some saved → floor ≤ saved := by
  induction requests generalizing cursor with
  | nil => exact ⟨hpos, hsaved⟩
  | cons request others ih =>
      obtain ⟨hpos', hsaved'⟩ := floor_run cursor request hpos hsaved hlength
      have hlength' : floor ≤ (request.run cursor).2.length := by
        rwa [Cursor.length, items_run]
      exact ih hpos' hsaved' hlength'

/-- Nothing is saved after a run that starts so and in which nothing moves on. -/
theorem saved_runAll_eq_none {requests : List Request} (hsaved : cursor.saved = none)
    (hstays : anyAdvances cursor requests = false) : (runAll cursor requests).saved = none := by
  induction requests generalizing cursor with
  | nil => exact hsaved
  | cons request others ih =>
      rw [anyAdvances, Bool.or_eq_false_iff] at hstays
      exact ih (saved_run_eq_none hsaved hstays.1) hstays.2

end Request

/-! ## Scripts as runs -/

namespace Script

variable {α : Type}

/-- The operations that a script asks for on a tree, in order. -/
def asked : Script α → Tree → List Request
  | .done _, _ => []
  | .note _ next, tree => next.asked tree
  | .ask request next, tree =>
      request :: (next (request.run tree).1).asked (request.run tree).2

/-- A script leaves the tree as the operations that it asks for do. -/
theorem eq_runAll_asked {script : Script α} {tree after : Tree} {value : α}
    (hrun : (script.run tree).result = .ok (value, after)) :
    after = Request.runAll tree (script.asked tree) := by
  induction script generalizing tree with
  | done result =>
      cases result with
      | ok result =>
          simp only [run, Traced.result_pure, Except.ok.injEq, Prod.mk.injEq] at hrun
          exact hrun.2.symm
      | error cause => simp [run] at hrun
  | note entries next ih =>
      rw [run, Traced.result_after] at hrun
      exact ih hrun
  | ask request next ih => exact ih (request.run tree).1 hrun

end Script

end TokenTree
