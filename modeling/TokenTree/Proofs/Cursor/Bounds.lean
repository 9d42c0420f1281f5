import TokenTree.Proofs.Dispatch.Levels

/-!
# Cursors stay in bounds

The operations of a cursor once more, as they go about it by index: the end of a stretch of items is
computed, and the items are taken by their positions, which can only be done inside of the sequence
and from left to right. `Request.indexed?` has no result where that fails. On a cursor in bounds it
never does and gives what `Request.run` gives. Every cursor that operations make of a new one, or of
a level of a dispatch, is in bounds, and what else such cursors keep to follows from that.
-/

namespace TokenTree

namespace Cursor

variable {ι : Type} {cursor : Cursor ι}

/-! ## Items by their positions -/

/-- The items from one position up to another, if the positions are in order and inside. -/
def slice? (cursor : Cursor ι) (start stop : Nat) : Option (List ι) :=
  if start ≤ stop ∧ stop ≤ cursor.length then some ((cursor.items.take stop).drop start) else none

/-- Between positions in order and inside there are items. -/
theorem slice?_of_le {start stop : Nat} (hle : start ≤ stop) (hlength : stop ≤ cursor.length) :
    cursor.slice? start stop = some ((cursor.items.take stop).drop start) :=
  if_pos ⟨hle, hlength⟩

/-- The items from the position up to so many further on are the first so many that are left. -/
theorem slice?_pos_add {count : Nat} (hlength : cursor.pos + count ≤ cursor.length) :
    cursor.slice? cursor.pos (cursor.pos + count) = some (cursor.rest.take count) := by
  rw [slice?_of_le (Nat.le_add_right _ _) hlength, List.drop_take, Nat.add_sub_cancel_left, rest]

/-- The items from the position to the end are those that are left. -/
theorem slice?_pos_length (hle : cursor.pos ≤ cursor.length) :
    cursor.slice? cursor.pos cursor.length = some cursor.rest := by
  rw [slice?_of_le hle (Nat.le_refl _), length, List.take_length, rest]

section Kinds

variable [Kinded ι]

/-- The position behind the next item of the kind, or the end, if the items that are left can be
looked at. -/
def segmentEnd? (cursor : Cursor ι) (kind : Kind) : Option Nat :=
  (cursor.slice? cursor.pos cursor.length).map fun items =>
    match items.findIdx? (isKind kind) with
    | some offset => cursor.pos + offset + 1
    | none => cursor.length

/-- The number of items through the first one of a kind, by its index. -/
theorem length_upTo (kind : Kind) (items : List ι) :
    (upTo kind items).length =
      match items.findIdx? (isKind kind) with
      | some offset => offset + 1
      | none => items.length := by
  induction items with
  | nil => rfl
  | cons item rest ih =>
      rw [upTo, List.findIdx?_cons]
      split
      · rfl
      · rw [List.length_cons, ih]
        cases rest.findIdx? (isKind kind) <;> rfl

/-- The segment ends as many items behind the position as it has. -/
theorem segmentEnd?_eq (kind : Kind) (hle : cursor.pos ≤ cursor.length) :
    cursor.segmentEnd? kind = some (cursor.pos + (cursor.checkUntil kind).length) := by
  have hrest : cursor.rest.length = cursor.length - cursor.pos := List.length_drop
  rw [segmentEnd?, slice?_pos_length hle, Option.map_some, checkUntil, length_upTo]
  split
  · rw [Nat.add_assoc]
  · rw [hrest, Nat.add_sub_cancel' hle]

/-- The segment is what stands between the position and its end. -/
theorem slice?_segment (kind : Kind) (hle : cursor.pos ≤ cursor.length) :
    cursor.slice? cursor.pos (cursor.pos + (cursor.checkUntil kind).length) =
      some (cursor.checkUntil kind) := by
  have hprefix := List.prefix_iff_eq_take.1 (prefix_upTo kind cursor.rest)
  rw [slice?_pos_add (pos_add_checkUntil_le kind hle), checkUntil, ← hprefix]

end Kinds

end Cursor

namespace Request

variable {ι : Type} {cursor : Cursor ι}

/-- The answer of an operation that has found what it looks for at the position, or has failed; the
item is read by its index. -/
def settleAt? (cursor after : Cursor ι) :
    Except Error ι → Option (Except Error ι × Cursor ι)
  | .ok _ => cursor.items[cursor.pos]?.map fun item => (.ok item, after)
  | .error cause => some (.error cause, cursor)

/-- An item that was found can be read by its index. -/
theorem settleAt?_eq (after : Cursor ι) {outcome : Except Error ι}
    (hcurrent : ∀ item, outcome = .ok item → cursor.items[cursor.pos]? = some item) :
    settleAt? cursor after outcome =
      some (settle cursor (outcome.map fun item => (item, after))) := by
  cases outcome with
  | ok item => rw [settleAt?, hcurrent item rfl, Option.map_some]; rfl
  | error cause => rfl

/-- Settling an outcome that leaves the cursor as it is leaves it so either way. -/
theorem settle_stay (outcome : Except Error ι) :
    settle cursor (outcome.map fun item => (item, cursor)) = (outcome, cursor) := by
  cases outcome <;> rfl

variable [Kinded ι]

/-- Perform an operation by index. There is no result where an item or a stretch of items would be
taken from outside of the sequence, or a stretch from right to left. -/
def indexed? (cursor : Cursor ι) : (request : Request) → Option (request.Answer ι × Cursor ι)
  | scan expected =>
      settleAt? cursor (cursor.advanceTo (cursor.pos + 1)) (cursor.check expected)
  | check expected => settleAt? cursor cursor (cursor.check expected)
  | scanGroup group =>
      settleAt? cursor (cursor.advanceTo (cursor.pos + 1)) (cursor.checkGroup group)
  | checkGroup group => settleAt? cursor cursor (cursor.checkGroup group)
  | scanUntil kind => do
      let stop ← cursor.segmentEnd? kind
      let items ← cursor.slice? cursor.pos stop
      some (items, cursor.advanceTo stop)
  | checkUntil kind => do
      let stop ← cursor.segmentEnd? kind
      let items ← cursor.slice? cursor.pos stop
      some (items, cursor)
  | skipUntil kind => do
      let stop ← cursor.segmentEnd? kind
      if cursor.pos ≤ stop then some (stop - cursor.pos, cursor.advanceTo stop) else none
  | peek count => do
      let items ← cursor.slice? cursor.pos (min (cursor.pos + count) cursor.length)
      some (items, cursor)
  | rest => do
      let items ← cursor.slice? cursor.pos cursor.length
      some (items, cursor)
  | request => some (request.run cursor)

/-- On a cursor in bounds every operation can be performed by index, with the same answer and the
same cursor afterwards. -/
theorem indexed?_eq_some_run (hbounds : cursor.InBounds) (request : Request) :
    request.indexed? cursor = some (request.run cursor) := by
  have hle := hbounds.pos_le
  cases request with
  | scan expected => exact settleAt?_eq _ fun _ => Cursor.current?_of_check
  | check expected =>
      rw [indexed?, settleAt?_eq _ fun _ => Cursor.current?_of_check, settle_stay]
      rfl
  | scanGroup group => exact settleAt?_eq _ fun _ => Cursor.current?_of_checkGroup
  | checkGroup group =>
      rw [indexed?, settleAt?_eq _ fun _ => Cursor.current?_of_checkGroup, settle_stay]
      rfl
  | scanUntil kind | checkUntil kind =>
      rw [indexed?, Cursor.segmentEnd?_eq kind hle, Option.bind_eq_bind, Option.bind_some,
        Cursor.slice?_segment kind hle]
      rfl
  | skipUntil kind =>
      rw [indexed?, Cursor.segmentEnd?_eq kind hle, Option.bind_eq_bind, Option.bind_some,
        if_pos (Nat.le_add_right _ _), Nat.add_sub_cancel_left]
      rfl
  | peek count =>
      have hmin : min (cursor.pos + count) cursor.length =
          cursor.pos + min count (cursor.length - cursor.pos) := by omega
      have hrest : cursor.rest.length = cursor.length - cursor.pos := List.length_drop
      have htake : cursor.rest.take (min count cursor.rest.length) = cursor.rest.take count :=
        List.take_eq_take_iff.2 (by omega)
      rw [indexed?, hmin, Cursor.slice?_pos_add (by omega), ← hrest, htake]
      rfl
  | rest =>
      rw [indexed?, Cursor.slice?_pos_length hle]
      rfl
  | _ => rfl

end Request

/-! ## Runs with items taken out -/

/-- What a cursor goes through in a dispatch: a request, or its current item is taken out and
something else left in its place. -/
inductive Operation (ι : Type) where
  | perform (request : Request)
  | take (hole : ι)

namespace Operation

variable {ι : Type} [Kinded ι] {cursor : Cursor ι}

/-- The cursor after an operation. -/
def run (cursor : Cursor ι) : Operation ι → Cursor ι
  | .perform request => (request.run cursor).2
  | .take hole => ((cursor.takeCurrent? hole).map Prod.snd).getD cursor

/-- The operation fails: it answers with a cause, or finds no item to take out. -/
def failed (cursor : Cursor ι) : Operation ι → Bool
  | .perform request => request.refused (request.run cursor).1
  | .take hole => (cursor.takeCurrent? hole).isNone

/-- The cursor after operations one after the other. -/
def runAll (cursor : Cursor ι) (operations : List (Operation ι)) : Cursor ι :=
  operations.foldl run cursor

/-- The indices at which the operations, one after the other, take items out. -/
def taken (cursor : Cursor ι) : List (Operation ι) → List Nat
  | [] => []
  | .perform request :: others => taken (Operation.run cursor (.perform request)) others
  | .take hole :: others => cursor.pos :: taken (Operation.run cursor (.take hole)) others

/-- An operation that fails leaves the cursor as it was. -/
theorem run_of_failed {operation : Operation ι} (hfailed : operation.failed cursor = true) :
    operation.run cursor = cursor := by
  cases operation with
  | perform request => exact Request.run_of_refused hfailed
  | take hole =>
      rw [run, Option.isNone_iff_eq_none.1 hfailed]
      rfl

/-- Taking out changes the slot at the position and no other. -/
theorem items_take (cursor : Cursor ι) (hole : ι) :
    (Operation.run cursor (.take hole)).items = cursor.items.set cursor.pos hole := by
  rw [run, Cursor.takeCurrent?, Cursor.current?]
  cases hcurrent : cursor.items[cursor.pos]? with
  | some item => rfl
  | none => exact (List.set_eq_of_length_le (List.getElem?_eq_none_iff.1 hcurrent)).symm

/-- An operation keeps a cursor in bounds. -/
theorem inBounds_run (hbounds : cursor.InBounds) (operation : Operation ι) :
    (operation.run cursor).InBounds := by
  cases operation with
  | perform request => exact Request.inBounds_run hbounds request
  | take hole =>
      rw [run]
      cases htake : cursor.takeCurrent? hole with
      | some pair => exact Cursor.inBounds_of_takeCurrent? htake
      | none => exact hbounds

/-- Operations keep a cursor in bounds. -/
theorem inBounds_runAll (hbounds : cursor.InBounds) (operations : List (Operation ι)) :
    (runAll cursor operations).InBounds := by
  induction operations generalizing cursor with
  | nil => exact hbounds
  | cons operation others ih => exact ih (inBounds_run hbounds operation)

/-- Operations leave every slot alone out of which they take nothing. -/
theorem getElem?_runAll (operations : List (Operation ι)) {index : Nat}
    (hindex : index ∉ taken cursor operations) :
    (runAll cursor operations).items[index]? = cursor.items[index]? := by
  induction operations generalizing cursor with
  | nil => rfl
  | cons operation others ih =>
      cases operation with
      | perform request =>
          have hothers := ih hindex
          rwa [show (run cursor (.perform request)).items = cursor.items from
            Request.items_run cursor request] at hothers
      | take hole =>
          rw [taken, List.mem_cons, not_or] at hindex
          have hothers := ih hindex.2
          rwa [items_take, List.getElem?_set_ne (Ne.symm hindex.1)] at hothers

end Operation

namespace Cursor

variable {ι : Type} [Kinded ι]

/-- Operations make the cursor of a new one. -/
def Reached (cursor : Cursor ι) : Prop :=
  ∃ items operations, cursor = Operation.runAll (ofList items) operations

/-- A new cursor takes no operations. -/
theorem reached_ofList (items : List ι) : (ofList items).Reached := ⟨items, [], rfl⟩

/-- One more operation. -/
theorem Reached.run {cursor : Cursor ι} (hreached : cursor.Reached) (operation : Operation ι) :
    (operation.run cursor).Reached := by
  obtain ⟨items, operations, rfl⟩ := hreached
  refine ⟨items, operations ++ [operation], ?_⟩
  rw [Operation.runAll, Operation.runAll, List.foldl_append]
  rfl

/-- Some more requests. -/
theorem Reached.runAll {cursor : Cursor ι} (hreached : cursor.Reached) (requests : List Request) :
    (Request.runAll cursor requests).Reached := by
  induction requests generalizing cursor with
  | nil => exact hreached
  | cons request others ih => exact ih (hreached.run (.perform request))

/-- A reached cursor is in bounds. -/
theorem Reached.inBounds {cursor : Cursor ι} (hreached : cursor.Reached) : cursor.InBounds := by
  obtain ⟨items, operations, rfl⟩ := hreached
  exact Operation.inBounds_runAll (inBounds_ofList items) operations

/-- A visit to the current node takes it out. -/
theorem Reached.visited {tree : Tree} {node : Node} (hreached : tree.Reached) (hole : Node)
    (hcurrent : tree.items[tree.pos]? = some node) : (tree.visited hole).Reached := by
  have htake := hreached.run (.take hole)
  rwa [Operation.run, takeCurrent?_eq_some_iff.2 ⟨hcurrent, rfl⟩] at htake

end Cursor

namespace Progress

variable {grammar : Grammar} {hole : Node} {tree : Tree} {progress after : Progress}

/-- A step of a dispatch does to the trees of its levels what operations do. -/
theorem reached_step (hstages : ∀ stage ∈ progress.stages, stage.level.tree.Reached)
    (hstep : progress.step grammar hole = .ok (some after)) :
    ∀ stage ∈ after.stages, stage.level.tree.Reached := by
  have hmoves : progress.Moves grammar hole _ := moves_step
  rw [hstep] at hmoves
  obtain ⟨htree, henclosing⟩ := List.forall_mem_cons.1 hstages
  cases hmoves with
  | keep hcurrent => exact List.forall_mem_cons.2 ⟨htree.visited hole hcurrent, henclosing⟩
  | react htriggers hrun =>
      refine List.forall_mem_cons.2 ⟨?_, henclosing⟩
      rw [Stage.visit, Script.eq_runAll_asked hrun]
      exact (htree.visited hole htriggers.current).runAll _
  | descend hcurrent =>
      exact List.forall_mem_cons.2 ⟨Cursor.reached_ofList _,
        List.forall_mem_cons.2 ⟨htree.visited hole hcurrent, henclosing⟩⟩
  | ascend hcurrent hparent =>
      rw [hparent] at henclosing
      obtain ⟨hresumed, houter⟩ := List.forall_mem_cons.1 henclosing
      exact List.forall_mem_cons.2 ⟨hresumed, houter⟩

/-- In the dispatch of a reached tree the trees of all levels are reached. -/
theorem reached_of_reaches (htree : tree.Reached) (hreaches : Reaches grammar hole tree progress) :
    ∀ stage ∈ progress.stages, stage.level.tree.Reached := by
  induction hreaches with
  | refl => exact List.forall_mem_singleton.2 htree
  | tail _ hstep ih => exact reached_step ih hstep

end Progress

/-! ## Bounds -/

/-- What holds of a cursor whatever operations it goes through from here on: it is in bounds, so
that every operation can be performed by index, going back does not lead forward and the end is
where the items end; an operation that fails changes nothing; and an item changes only by being
taken out. -/
structure Cursor.StaysInBounds {ι : Type} [Kinded ι] (start : Cursor ι) : Prop where
  inBounds : ∀ operations, (Operation.runAll start operations).InBounds
  indexed : ∀ operations (request : Request),
    request.indexed? (Operation.runAll start operations) =
      some (request.run (Operation.runAll start operations))
  unscan_le : ∀ operations,
    (Operation.runAll start operations).unscan.pos ≤ (Operation.runAll start operations).pos
  isAtEnd_iff : ∀ operations, (Operation.runAll start operations).isAtEnd = true ↔
    (Operation.runAll start operations).pos = (Operation.runAll start operations).length
  failed : ∀ operations (operation : Operation ι),
    operation.failed (Operation.runAll start operations) = true →
    operation.run (Operation.runAll start operations) = Operation.runAll start operations
  items_perform : ∀ operations request,
    (Operation.run (Operation.runAll start operations) (.perform request)).items =
      (Operation.runAll start operations).items
  items_take : ∀ operations hole,
    (Operation.run (Operation.runAll start operations) (.take hole)).items =
      (Operation.runAll start operations).items.set (Operation.runAll start operations).pos hole
  items_runAll : ∀ operations, ∀ index ∉ Operation.taken start operations,
    (Operation.runAll start operations).items[index]? = start.items[index]?

/-- A cursor in bounds stays there. -/
theorem Cursor.InBounds.stays {ι : Type} [Kinded ι] {start : Cursor ι} (hbounds : start.InBounds) :
    start.StaysInBounds where
  inBounds := Operation.inBounds_runAll hbounds
  indexed operations := Request.indexed?_eq_some_run (Operation.inBounds_runAll hbounds operations)
  unscan_le operations := (Operation.inBounds_runAll hbounds operations).unscan_pos_le
  isAtEnd_iff operations := by
    have hle := (Operation.inBounds_runAll hbounds operations).pos_le
    rw [Cursor.isAtEnd, decide_eq_true_iff]
    omega
  failed _ _ hfailed := Operation.run_of_failed hfailed
  items_perform _ request := Request.items_run _ request
  items_take _ hole := Operation.items_take _ hole
  items_runAll operations _ hindex := Operation.getElem?_runAll operations hindex

/-- New cursors stay in bounds, and so do the levels of every dispatch of a reached tree. -/
theorem staysInBounds_of_reached :
    (∀ {ι : Type} [Kinded ι] (items : List ι), (Cursor.ofList items).StaysInBounds) ∧
    ∀ (grammar : Grammar) (hole : Node) (tree : Tree) (progress : Progress) (stage : Stage),
      tree.Reached → Progress.Reaches grammar hole tree progress → stage ∈ progress.stages →
      stage.level.tree.StaysInBounds := by
  refine ⟨fun items => (Cursor.inBounds_ofList items).stays, ?_⟩
  intro grammar hole tree progress stage htree hreaches hstage
  exact (Progress.reached_of_reaches htree hreaches stage hstage).inBounds.stays

/-- A branch around the leaf of a token without a reaction. -/
def nested : Tree := .ofList [.branch none [.leaf (.bare ⟨"a"⟩)]]

/-- After one step the level at hand is that of the children, which stays in bounds. -/
theorem staysInBounds_nested : ∃ progress stage, nested.Reached ∧
    Progress.Reaches Grammar.empty (.list []) nested progress ∧ stage ∈ progress.stages ∧
    stage.level.tree = .ofList [.leaf (.bare ⟨"a"⟩)] ∧ stage.level.tree.StaysInBounds := by
  have hreached : nested.Reached := Cursor.reached_ofList _
  have hreaches : Progress.Reaches Grammar.empty (.list []) nested _ := .single rfl
  exact ⟨_, _, hreached, hreaches, List.mem_cons_self, rfl,
    staysInBounds_of_reached.2 _ _ _ _ _ hreached hreaches List.mem_cons_self⟩

end TokenTree
