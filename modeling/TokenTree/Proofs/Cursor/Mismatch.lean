import TokenTree.Proofs.Cursor.Bounds

/-!
# What a failed operation says

An operation fails on a cursor because of what is found at its position: no item, or one of another
kind (`Found`). A cause carries the kind that was found, and words a missing one as the end of the
tokens. All tokens have a kind, so on a stream a cause says that the end was found exactly where it
is. An untagged branch has none, so on a tree a cause says so of such a branch as well
(`saysEnd_of_reached`).
-/

namespace TokenTree

/-! ## Causes -/

namespace Error

/-- The cause says that the end of the tokens was found, by what it is or by how it words what was
found. -/
def saysEnd : Error → Bool
  | .typeMismatch _ found _ => describe found == "end of tokens"
  | .unexpectedEnd _ => true
  | _ => false

/-- The cause names the kind of the item at the position of the cursor. -/
def Names {ι : Type} [Kinded ι] (cause : Error) (cursor : Cursor ι) : Prop :=
  ∃ expected item kind, cursor.current? = some item ∧ kind? item = some kind ∧
    cause = .typeMismatch expected (some kind) cursor.pos

/-- What was found is worded as the end of the tokens exactly if it has no kind. -/
theorem describe_eq_end_iff {found : Option Kind} :
    describe found = "end of tokens" ↔ found = none := by
  cases found with
  | none => exact iff_of_true rfl rfl
  | some kind =>
      refine iff_of_false (fun hsame => ?_) (Option.some_ne_none kind)
      -- A kind is worded between backticks.
      have hfirst := congrArg (fun text => text.toList.head?) hsame
      simp [describe] at hfirst

/-- A mismatch says that the end was found exactly if what was found has no kind. -/
theorem saysEnd_typeMismatch {expected : Kind} {found : Option Kind} {position : Nat} :
    (typeMismatch expected found position).saysEnd = true ↔ found = none := by
  rw [saysEnd, beq_iff_eq, describe_eq_end_iff]

end Error

/-! ## Failed operations -/

namespace Cursor

variable {ι : Type} [Kinded ι] {cursor : Cursor ι} {cause : Error}

/-- The causes for which an operation on the current item may fail. -/
inductive Found (cursor : Cursor ι) : Error → Prop where
  /-- Any item was looked for, and there is none. -/
  | missing (hcurrent : cursor.current? = none) : Found cursor (.unexpectedEnd cursor.pos)
  /-- An item of some kind was looked for, and there is none. -/
  | nothing {expected : Kind} (hcurrent : cursor.current? = none) :
      Found cursor (.typeMismatch expected none cursor.pos)
  /-- An item of some kind was looked for, and there is another one. -/
  | other {expected : Kind} {item : ι} (hcurrent : cursor.current? = some item) :
      Found cursor (.typeMismatch expected (kind? item) cursor.pos)

/-- Looking for an item fails for what is found. -/
theorem found_of_check {expected : Option Kind} (hcheck : cursor.check expected = .error cause) :
    cursor.Found cause := by
  cases expected with
  | none =>
      rw [check] at hcheck
      split at hcheck
      · cases hcheck
      · next hcurrent =>
          cases hcheck
          exact .missing hcurrent
  | some kind =>
      rw [check] at hcheck
      split at hcheck
      · next item hcurrent =>
          split at hcheck
          · cases hcheck
          · cases hcheck
            exact .other hcurrent
      · next hcurrent =>
          cases hcheck
          exact .nothing hcurrent

/-- Looking for a member of a group fails for what is found. -/
theorem found_of_checkGroup {group : Group} (hcheck : cursor.checkGroup group = .error cause) :
    cursor.Found cause := by
  rw [checkGroup] at hcheck
  split at hcheck
  · next item hcurrent =>
      split at hcheck
      · cases hcheck
      · cases hcheck
        exact .other hcurrent
  · next hcurrent =>
      cases hcheck
      exact .nothing hcurrent

/-- A cause says that the end was found where there is no item, or one without a kind. -/
theorem Found.saysEnd_iff (hfound : cursor.Found cause) :
    cause.saysEnd = true ↔
      cursor.current? = none ∨ ∃ item, cursor.current? = some item ∧ kind? item = none := by
  cases hfound with
  | missing hcurrent => exact iff_of_true rfl (.inl hcurrent)
  | nothing hcurrent => exact iff_of_true (Error.saysEnd_typeMismatch.2 rfl) (.inl hcurrent)
  | other hcurrent => simp [Error.saysEnd_typeMismatch, hcurrent]

/-- A cause that does not say so names the kind of the item that is there. -/
theorem Found.names (hfound : cursor.Found cause) (htells : cause.saysEnd = false) :
    cause.Names cursor := by
  cases hfound with
  | missing => cases htells
  | nothing => exact absurd (Error.saysEnd_typeMismatch.2 rfl) (Bool.not_eq_true _ ▸ htells)
  | @other expected item hcurrent =>
      cases hkind : kind? item with
      | none =>
          rw [hkind, Error.saysEnd_typeMismatch.2 rfl] at htells
          cases htells
      | some kind => exact ⟨expected, item, kind, hcurrent, hkind, rfl⟩

end Cursor

namespace Request

/-- Moving on behind an item that was found is no cause of failure. -/
theorem failure?_settle {ι α β : Type} (cursor : Cursor ι) (outcome : Except Error α)
    (value : α → β × Cursor ι) :
    failure? (settle cursor (outcome.map value)).1 = failure? outcome := by
  cases outcome <;> rfl

variable {ι : Type} [Kinded ι] {cursor : Cursor ι} {request : Request} {cause : Error}

/-- The cause that an operation answers with, if it fails. -/
def cause? : (request : Request) → request.Answer ι → Option Error
  | scan _, answer | check _, answer | scanGroup _, answer | checkGroup _, answer => failure? answer
  | skip _, answer => failure? answer
  | _, _ => none

/-- The operation fails on the cursor for the cause. -/
def FailsWith (cursor : Cursor ι) (request : Request) (cause : Error) : Prop :=
  request.cause? (request.run cursor).1 = some cause

/-- An operation fails for what is found at the position. -/
theorem FailsWith.found (hfails : request.FailsWith cursor cause) : cursor.Found cause := by
  cases request with
  | check expected => exact Cursor.found_of_check (eq_error_of_failure? hfails)
  | checkGroup group => exact Cursor.found_of_checkGroup (eq_error_of_failure? hfails)
  | scan expected =>
      have hcheck := (failure?_settle cursor (cursor.check expected) _).symm.trans hfails
      exact Cursor.found_of_check (eq_error_of_failure? hcheck)
  | skip expected =>
      have hcheck := (failure?_settle cursor (cursor.check expected) _).symm.trans hfails
      exact Cursor.found_of_check (eq_error_of_failure? hcheck)
  | scanGroup group =>
      have hcheck := (failure?_settle cursor (cursor.checkGroup group) _).symm.trans hfails
      exact Cursor.found_of_checkGroup (eq_error_of_failure? hcheck)
  | _ => cases hfails

/-- In bounds a cause says that the end was found at the end, and of an item without a kind. -/
theorem FailsWith.saysEnd_iff (hfails : request.FailsWith cursor cause)
    (hbounds : cursor.InBounds) :
    cause.saysEnd = true ↔ cursor.pos = cursor.length ∨
      ∃ item, cursor.current? = some item ∧ kind? item = none := by
  have hend : cursor.current? = none ↔ cursor.pos = cursor.length := by
    have hle := hbounds.pos_le
    rw [Cursor.current?, List.getElem?_eq_none_iff, ← Cursor.length]
    omega
  rw [hfails.found.saysEnd_iff, hend]

/-- Looking for a kind fails on an item without one, in the words for the end of the tokens. -/
theorem failsWith_of_kind?_eq_none {item : ι} (hcurrent : cursor.current? = some item)
    (hkind : kind? item = none) (expected : Kind) :
    (check (some expected)).FailsWith cursor (.typeMismatch expected none cursor.pos) := by
  have hmiss : isKind expected item = false := by
    rw [isKind, hkind]
    rfl
  show failure? (cursor.check (some expected)) = _
  simp only [Cursor.check, hcurrent, hmiss, hkind]
  rfl

/-- Skipping so many items leads behind them. -/
theorem pos_runAll_skips (items : List ι) {count : Nat} (hle : count ≤ items.length) :
    (runAll (.ofList items) (List.replicate count (skip none))).pos = count := by
  induction count with
  | zero => rfl
  | succ count ih =>
      have hpos := ih (Nat.le_of_succ_le hle)
      have hitems := items_runAll (.ofList items) (List.replicate count (skip none))
      rw [List.replicate_succ', runAll_concat]
      generalize runAll (.ofList items) (List.replicate count (skip none)) = cursor at hpos hitems
      have hcurrent : cursor.current? = some items[count] := by
        rw [Cursor.current?, hpos, hitems]
        exact List.getElem?_eq_getElem hle
      simp [run, Cursor.skip, Cursor.check, hcurrent, settle, Except.map, Cursor.advanceTo, hpos]

end Request

/-! ## The end of the tokens -/

/-- An untagged branch is the node without a kind. -/
theorem Node.kind?_eq_none_iff {node : Node} :
    Kinded.kind? node = none ↔ ∃ children, node = .branch none children := by
  cases node with
  | leaf token => simp [Kinded.kind?, Node.kind?]
  | branch tag children => simp [Kinded.kind?, Node.kind?]

/-- On a tree a cause says that the end was found at the end, and of an untagged branch. -/
theorem Request.FailsWith.saysEnd_iff_of_tree {tree : Tree} {request : Request} {cause : Error}
    (hfails : request.FailsWith tree cause) (hreached : tree.Reached) :
    cause.saysEnd = true ↔
      tree.pos = tree.length ∨ ∃ children, tree.current? = some (.branch none children) := by
  rw [hfails.saysEnd_iff hreached.inBounds]
  refine or_congr_right ⟨?_, fun ⟨children, hcurrent⟩ => ⟨_, hcurrent, rfl⟩⟩
  rintro ⟨node, hcurrent, hkind⟩
  obtain ⟨children, rfl⟩ := Node.kind?_eq_none_iff.1 hkind
  exact ⟨children, hcurrent⟩

/-- On a stream a cause says that the end of the tokens was found where the cursor is at the end,
and else names the kind of the item that is there. On a tree a cause says so of an untagged branch
as well. So what causes say can be relied upon in all runs on the nodes of a tree exactly if there
is no untagged branch among them. -/
theorem saysEnd_of_reached {stream : TokenStream} {tree : Tree} (hstream : stream.Reached)
    (htree : tree.Reached) :
    (∀ (request : Request) (cause : Error), request.FailsWith stream cause →
      (cause.saysEnd = true ↔ stream.pos = stream.length) ∧
      (cause.saysEnd = false → cause.Names stream)) ∧
    (∀ (request : Request) (cause : Error), request.FailsWith tree cause →
      (cause.saysEnd = true ↔
        tree.pos = tree.length ∨ ∃ children, tree.current? = some (.branch none children)) ∧
      (cause.saysEnd = false → cause.Names tree)) ∧
    ((∀ (requests : List Request) (request : Request) (cause : Error),
        request.FailsWith (Request.runAll (.ofList tree.items) requests) cause →
        (cause.saysEnd = true ↔
          (Request.runAll (.ofList tree.items) requests).pos = tree.length)) ↔
      ∀ children, .branch none children ∉ tree.items) := by
  refine ⟨fun request cause hfails => ⟨?_, hfails.found.names⟩,
    fun request cause hfails => ⟨hfails.saysEnd_iff_of_tree htree, hfails.found.names⟩, ?_, ?_⟩
  · rw [hfails.saysEnd_iff hstream.inBounds, or_iff_left]
    rintro ⟨token, -, hkind⟩
    cases hkind
  · -- A run of skips leads to the branch, of which a check for any kind says that it is the end.
    intro htells children hmem
    obtain ⟨index, hlt, hindex⟩ := List.mem_iff_getElem.1 hmem
    have hskips := Request.pos_runAll_skips tree.items (Nat.le_of_lt hlt)
    have hitems := Request.items_runAll (.ofList tree.items) (List.replicate index (.skip none))
    have hcurrent :
        (Request.runAll (.ofList tree.items) (List.replicate index (.skip none))).current? =
          some (.branch none children) := by
      rw [Cursor.current?, hskips, hitems, ← hindex]
      exact List.getElem?_eq_getElem hlt
    have hfails := Request.failsWith_of_kind?_eq_none hcurrent rfl ⟨"id"⟩
    have hend := (htells _ _ _ hfails).1 (Error.saysEnd_typeMismatch.2 rfl)
    rw [hskips] at hend
    exact absurd hend (Nat.ne_of_lt hlt)
  · intro htagged requests request cause hfails
    have hreached := (Cursor.reached_ofList tree.items).runAll requests
    have hitems := Request.items_runAll (.ofList tree.items) requests
    rw [hfails.saysEnd_iff_of_tree hreached, or_iff_left]
    · rw [Cursor.length, hitems]
      rfl
    rintro ⟨children, hcurrent⟩
    rw [Cursor.current?, hitems] at hcurrent
    exact htagged children (List.mem_of_getElem? hcurrent)

/-- A list that is not empty, inside of a tree. -/
def listed : Tree := .ofList [.list [.leaf (.bare ⟨"a"⟩)]]

/-- A check for a kind says of the list that the tokens end there, before the end. -/
theorem saysEnd_listed : listed.Reached ∧
    (Request.check (some ⟨"id"⟩)).FailsWith listed (.typeMismatch ⟨"id"⟩ none 0) ∧
    (Error.typeMismatch ⟨"id"⟩ none 0).saysEnd = true ∧ listed.pos ≠ listed.length := by
  have hreached : listed.Reached := Cursor.reached_ofList _
  have hfails : (Request.check (some ⟨"id"⟩)).FailsWith listed (.typeMismatch ⟨"id"⟩ none 0) := rfl
  have hstream := Cursor.reached_ofList ([] : List Token)
  have htells := ((saysEnd_of_reached hstream hreached).2.1 _ _ hfails).1
  exact ⟨hreached, hfails, htells.2 (.inr ⟨_, rfl⟩), by decide⟩

end TokenTree
