import TokenTree.Proofs.Cursor.Segments

/-!
# Variants of an operation

An item can be looked at, read or skipped, alone or as a member of a group, and a stretch of items
through one of a kind likewise. The variants find the same, or fail for the same cause, and differ
only in what they answer and in whether they move the cursor. `Cursor.VariantsAgree` says so of one
cursor, together with what the variants find; `variantsAgree_of_reached` shows it of every cursor
that operations lead to.
-/

namespace TokenTree

namespace Cursor

variable {ι : Type} {cursor : Cursor ι}

/-! ## Items ahead -/

/-- The sum of two numbers, or the largest number there is where the sum is above it. -/
def saturatingAdd (largest left right : Nat) : Nat := min (left + right) largest

/-- The next items by index, as many as asked for or as there are, with numbers up to the largest
one. -/
def peekWithin? (largest : Nat) (cursor : Cursor ι) (count : Nat) : Option (List ι) :=
  cursor.slice? cursor.pos (min (saturatingAdd largest cursor.pos count) cursor.length)

/-- The first of the items left, so many as are asked for. -/
theorem peek_eq (cursor : Cursor ι) (count : Nat) :
    cursor.peek count = cursor.rest.take (min count (cursor.length - cursor.pos)) := by
  have hrest : cursor.rest.length = cursor.length - cursor.pos := List.length_drop
  rw [peek, ← hrest]
  exact List.take_eq_take_min

/-- A sum above the largest number is above the number of items, so that it makes no difference
where it stops. -/
theorem peekWithin?_eq {largest : Nat} (hpos : cursor.pos ≤ cursor.length)
    (hlargest : cursor.length ≤ largest) (count : Nat) :
    peekWithin? largest cursor count = some (cursor.peek count) := by
  have hstop : min (saturatingAdd largest cursor.pos count) cursor.length =
      cursor.pos + min count (cursor.length - cursor.pos) := by
    unfold saturatingAdd
    omega
  rw [peekWithin?, hstop, slice?_pos_add (by omega), peek_eq]

/-! ## Members of a group -/

variable [Kinded ι]

/-- A check for a kind finds an item exactly if the current one is of the kind. -/
theorem check_some_eq_ok_iff {kind : Kind} {item : ι} :
    cursor.check (some kind) = .ok item ↔
      cursor.current? = some item ∧ kind? item = some kind := by
  constructor
  · intro hcheck
    have hcurrent : cursor.current? = some item := current?_of_check hcheck
    simp only [check, hcurrent] at hcheck
    split at hcheck
    · next hkind => exact ⟨hcurrent, isKind_iff.1 hkind⟩
    · cases hcheck
  · rintro ⟨hcurrent, hkind⟩
    simp only [check, hcurrent]
    exact if_pos (isKind_iff.2 hkind)

/-- A check for a group finds an item exactly if the current one is of the kind of a member. -/
theorem checkGroup_eq_ok_iff {group : Group} {item : ι} :
    cursor.checkGroup group = .ok item ↔
      cursor.current? = some item ∧ ∃ member ∈ group.members, kind? item = some member := by
  have hany : (kind? item).any group.contains = true ↔
      ∃ member ∈ group.members, kind? item = some member := by
    cases kind? item with
    | none => simp
    | some kind => simp [Group.contains]
  constructor
  · intro hcheck
    have hcurrent : cursor.current? = some item := current?_of_checkGroup hcheck
    simp only [checkGroup, hcurrent] at hcheck
    split at hcheck
    · next hmember => exact ⟨hcurrent, hany.1 hmember⟩
    · cases hcheck
  · rintro ⟨hcurrent, hmember⟩
    simp only [checkGroup, hcurrent]
    exact if_pos (hany.2 hmember)

/-! ## Variants -/

/-- The variants of every operation find the same on the cursor. -/
structure VariantsAgree (cursor : Cursor ι) : Prop where
  /-- An item is found by all three variants, and two of them move behind it, or all three fail for
  one cause and leave the cursor alone. -/
  single : ∀ expected : Option Kind,
    (∃ item, cursor.items[cursor.pos]? = some item ∧
      (Request.check expected).run cursor = (.ok item, cursor) ∧
      (Request.scan expected).run cursor = (.ok item, cursor.advanceTo (cursor.pos + 1)) ∧
      (Request.skip expected).run cursor =
        (.ok (cursor.pos + 1), cursor.advanceTo (cursor.pos + 1))) ∨
    ∃ cause,
      (Request.check expected).run cursor = (.error cause, cursor) ∧
      (Request.scan expected).run cursor = (.error cause, cursor) ∧
      (Request.skip expected).run cursor = (.error cause, cursor)
  /-- A member of a group is found by both variants, or both fail for one cause. -/
  group : ∀ group : Group,
    (∃ item, cursor.items[cursor.pos]? = some item ∧
      (Request.checkGroup group).run cursor = (.ok item, cursor) ∧
      (Request.scanGroup group).run cursor = (.ok item, cursor.advanceTo (cursor.pos + 1))) ∨
    ∃ cause,
      (Request.checkGroup group).run cursor = (.error cause, cursor) ∧
      (Request.scanGroup group).run cursor = (.error cause, cursor)
  /-- A check for a group finds what a check for one of its members finds. -/
  members : ∀ (group : Group) (item : ι),
    ((Request.checkGroup group).run cursor).1 = .ok item ↔
      ∃ member ∈ group.members, ((Request.check (some member)).run cursor).1 = .ok item
  /-- All three variants go through the stretch that the next item of the kind ends, and two of them
  move to its end. -/
  segment : ∀ kind : Kind, ∃ segment stop,
    Segment kind cursor.rest segment ∧ stop = cursor.pos + segment.length ∧
    cursor.slice? cursor.pos stop = some segment ∧
    (Request.checkUntil kind).run cursor = (segment, cursor) ∧
    (Request.scanUntil kind).run cursor = (segment, cursor.advanceTo stop) ∧
    (Request.skipUntil kind).run cursor = (segment.length, cursor.advanceTo stop)
  /-- A look at the next items gives so many of those left, or all of them, and does so by index
  with sums that stop at the largest number. -/
  ahead : ∀ largest count : Nat, cursor.length ≤ largest →
    (Request.peek count).run cursor =
      (cursor.rest.take (min count (cursor.length - cursor.pos)), cursor) ∧
    peekWithin? largest cursor count = some (cursor.peek count)

/-- On a cursor that operations lead to, the variants of every operation find the same. -/
theorem variantsAgree_of_reached (hreached : cursor.Reached) : cursor.VariantsAgree where
  single expected := by
    show (∃ item, _ ∧ (cursor.check expected, cursor) = _ ∧
        Request.settle cursor (cursor.scan expected) = _ ∧
        Request.settle cursor (cursor.skip expected) = _) ∨
      ∃ cause, (cursor.check expected, cursor) = _ ∧
        Request.settle cursor (cursor.scan expected) = _ ∧
        Request.settle cursor (cursor.skip expected) = _
    unfold scan skip
    cases hcheck : cursor.check expected with
    | ok item => exact .inl ⟨item, current?_of_check hcheck, rfl, rfl, rfl⟩
    | error cause => exact .inr ⟨cause, rfl, rfl, rfl⟩
  group group := by
    show (∃ item, _ ∧ (cursor.checkGroup group, cursor) = _ ∧
        Request.settle cursor (cursor.scanGroup group) = _) ∨
      ∃ cause, (cursor.checkGroup group, cursor) = _ ∧
        Request.settle cursor (cursor.scanGroup group) = _
    unfold scanGroup
    cases hcheck : cursor.checkGroup group with
    | ok item => exact .inl ⟨item, current?_of_checkGroup hcheck, rfl, rfl⟩
    | error cause => exact .inr ⟨cause, rfl, rfl⟩
  members group item := by
    show cursor.checkGroup group = .ok item ↔
      ∃ member ∈ group.members, cursor.check (some member) = .ok item
    rw [checkGroup_eq_ok_iff]
    constructor
    · rintro ⟨hcurrent, member, hmem, hkind⟩
      exact ⟨member, hmem, check_some_eq_ok_iff.2 ⟨hcurrent, hkind⟩⟩
    · rintro ⟨member, hmem, hcheck⟩
      obtain ⟨hcurrent, hkind⟩ := check_some_eq_ok_iff.1 hcheck
      exact ⟨hcurrent, member, hmem, hkind⟩
  segment kind :=
    ⟨cursor.checkUntil kind, _, segment_upTo kind cursor.rest, rfl,
      slice?_segment kind hreached.inBounds.pos_le, rfl, rfl, rfl⟩
  ahead largest count hlargest := by
    refine ⟨?_, peekWithin?_eq hreached.inBounds.pos_le hlargest count⟩
    rw [← peek_eq]
    rfl

/-- A tree whose first leaf is read, with a list at hand. -/
def beforeList : Tree :=
  Request.runAll (.ofList [.leaf (.bare ⟨"a"⟩), .list [], .leaf (.bare ⟨"b"⟩)]) [.skip none]

/-- On the list, which has no kind, looking for a kind fails in all three variants for one cause,
and the stretch through the next leaf of the kind begins with the list. -/
theorem variantsAgree_beforeList : beforeList.Reached ∧
    (∃ cause, (Request.check (some ⟨"b"⟩)).run beforeList = (.error cause, beforeList) ∧
      (Request.scan (some ⟨"b"⟩)).run beforeList = (.error cause, beforeList) ∧
      (Request.skip (some ⟨"b"⟩)).run beforeList = (.error cause, beforeList)) ∧
    ((Request.skipUntil ⟨"b"⟩).run beforeList).1 = 2 := by
  have hreached : beforeList.Reached := (reached_ofList _).runAll _
  have hagree := variantsAgree_of_reached hreached
  refine ⟨hreached, ?_, ?_⟩
  · obtain ⟨item, -, hcheck, -⟩ | hfails := hagree.single (some ⟨"b"⟩)
    · have hanswer := congrArg Prod.fst hcheck
      cases hanswer
    · exact hfails
  · obtain ⟨segment, stop, -, -, -, hcheck, -, hskip⟩ := hagree.segment ⟨"b"⟩
    have hsegment : [.list [], .leaf (.bare ⟨"b"⟩)] = segment := congrArg Prod.fst hcheck
    rw [hskip, ← hsegment]
    rfl

end Cursor

end TokenTree
