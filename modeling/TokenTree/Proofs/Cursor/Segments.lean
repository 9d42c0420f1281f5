import TokenTree.Proofs.Cursor.Bounds

/-!
# Stretches of items through one of a kind

What the operations that end in `Until` go through is described here without the way they look for
it: it is the shortest prefix of the items left whose last item is of the kind, or all of them when
none is (`Cursor.Segment`). Asking for one such stretch after the other until the end is reached
cuts the items left into stretches (`Cursor.Cuts`). `exists_collects` says that this comes to an
end, and with the only such cut.
-/

namespace TokenTree

/-- No items are left exactly where the end is reached. -/
theorem Cursor.rest_eq_nil_iff {ι : Type} {cursor : Cursor ι} :
    cursor.rest = [] ↔ cursor.isAtEnd = true := by
  rw [rest, List.drop_eq_nil_iff, isAtEnd, decide_eq_true_iff, length]

namespace Cursor

variable {ι : Type} [Kinded ι] {kind : Kind} {items : List ι}

/-- An item has the kind that it is matched by. -/
theorem isKind_iff {item : ι} : isKind kind item = true ↔ kind? item = some kind := beq_iff_eq

/-- The last of the items is of the kind. -/
def EndsIn (kind : Kind) (items : List ι) : Prop :=
  ∃ front last, items = front ++ [last] ∧ kind? last = some kind

/-- The stretch of the items that an item of the kind ends. -/
inductive Segment (kind : Kind) (items : List ι) : List ι → Prop where
  /-- The shortest prefix whose last item is of the kind. -/
  | through {segment : List ι} (hinitial : segment <+: items) (hends : EndsIn kind segment)
      (hshortest : ∀ other, other <+: items → EndsIn kind other →
        segment.length ≤ other.length) : Segment kind items segment
  /-- All items, when none is of the kind. -/
  | all (hnone : ∀ item ∈ items, kind? item ≠ some kind) : Segment kind items items

/-! ## The items through the first one of a kind -/

/-- There are items through the first one of a kind wherever there are items at all. -/
theorem upTo_ne_nil (hitems : items ≠ []) : upTo kind items ≠ [] := by
  cases items with
  | nil => exact absurd rfl hitems
  | cons item rest =>
      rw [upTo]
      split <;> exact List.cons_ne_nil _ _

/-- No item before the last one is of the kind. -/
theorem kind?_ne_of_mem_dropLast (kind : Kind) (items : List ι) :
    ∀ item ∈ (upTo kind items).dropLast, kind? item ≠ some kind := by
  induction items with
  | nil => exact fun _ hmem => nomatch hmem
  | cons first rest ih =>
      intro item hmem
      rw [upTo] at hmem
      split at hmem
      · cases hmem
      · next hfirst =>
          cases hrest : upTo kind rest with
          | nil => rw [hrest] at hmem; cases hmem
          | cons next others =>
              rw [hrest, List.dropLast_cons_cons, List.mem_cons] at hmem
              obtain rfl | hothers := hmem
              · exact mt isKind_iff.2 hfirst
              · exact ih item (hrest ▸ hothers)

/-- The last item is of the kind, or none is and the items are all that there are. -/
theorem endsIn_upTo_or (kind : Kind) (items : List ι) :
    EndsIn kind (upTo kind items) ∨
      upTo kind items = items ∧ ∀ item ∈ items, kind? item ≠ some kind := by
  induction items with
  | nil => exact .inr ⟨rfl, fun _ hmem => nomatch hmem⟩
  | cons first rest ih =>
      rw [upTo]
      split
      · next hfirst => exact .inl ⟨[], first, rfl, isKind_iff.1 hfirst⟩
      · next hfirst =>
          rw [isKind_iff] at hfirst
          obtain ⟨front, last, heq, hlast⟩ | ⟨heq, hnone⟩ := ih
          · exact .inl ⟨first :: front, last, by rw [heq, List.cons_append], hlast⟩
          · exact .inr ⟨by rw [heq], List.forall_mem_cons.2 ⟨hfirst, hnone⟩⟩

/-- A prefix whose last item is of the kind has all the items through the first one of the kind. -/
theorem length_upTo_le_of_endsIn {other : List ι} (hinitial : other <+: items)
    (hends : EndsIn kind other) : (upTo kind items).length ≤ other.length := by
  obtain ⟨front, last, rfl, hlast⟩ := hends
  obtain ⟨behind, rfl⟩ := hinitial
  induction front with
  | nil => simp [upTo, isKind_iff.2 hlast]
  | cons first front ih =>
      simp only [List.cons_append, upTo]
      split
      · simp
      · simpa using ih

/-- The items through the first one of a kind are the stretch that it ends. -/
theorem segment_upTo (kind : Kind) (items : List ι) : Segment kind items (upTo kind items) := by
  obtain hends | ⟨hall, hnone⟩ := endsIn_upTo_or kind items
  · exact .through (prefix_upTo kind items) hends fun _ => length_upTo_le_of_endsIn
  · rw [hall]
    exact .all hnone

/-- Of a stretch and what stands behind it the stretch is gone through, if no item before its last
one is of the kind, and the last one is or nothing stands behind it. -/
theorem upTo_append {stretch behind : List ι} (hne : stretch ≠ [])
    (honly : ∀ item ∈ stretch.dropLast, kind? item ≠ some kind)
    (hends : EndsIn kind stretch ∨ behind = []) : upTo kind (stretch ++ behind) = stretch := by
  induction stretch with
  | nil => exact absurd rfl hne
  | cons first others ih =>
      rw [List.cons_append, upTo]
      cases others with
      | nil =>
          split
          · rfl
          · next hfirst =>
              obtain ⟨front, last, heq, hlast⟩ | rfl := hends
              · obtain ⟨-, rfl⟩ : front = [] ∧ first = last := by
                  cases front <;> simp_all
                exact absurd (isKind_iff.2 hlast) hfirst
              · rfl
      | cons second others =>
          rw [List.dropLast_cons_cons] at honly
          obtain ⟨hfirst, hothers⟩ := List.forall_mem_cons.1 honly
          rw [if_neg (mt isKind_iff.1 hfirst), ih (List.cons_ne_nil _ _) hothers]
          refine hends.imp_left ?_
          rintro ⟨front, last, heq, hlast⟩
          cases front with
          | nil => cases heq
          | cons head front => exact ⟨front, last, (List.cons.inj heq).2, hlast⟩

/-! ## One stretch after the other -/

/-- The items from the position on are the next stretch and those that are left behind it. -/
theorem scanUntil_append_rest (cursor : Cursor ι) (kind : Kind) :
    (cursor.scanUntil kind).1 ++ (cursor.scanUntil kind).2.rest = cursor.rest := by
  have hbehind : (cursor.scanUntil kind).2.rest =
      cursor.rest.drop (upTo kind cursor.rest).length := by
    rw [rest, rest, List.drop_drop]
    rfl
  rw [hbehind]
  exact List.prefix_iff_eq_append.1 (prefix_upTo kind cursor.rest)

/-- Ask for the next stretch for as long as the end is not reached. These are the stretches that
come of it, and the cursor at the end. -/
inductive Collects (kind : Kind) : Cursor ι → List (List ι) → Cursor ι → Prop where
  | stop {cursor : Cursor ι} (hend : cursor.isAtEnd = true) : Collects kind cursor [] cursor
  | more {cursor after : Cursor ι} {others : List (List ι)} (hmore : cursor.isAtEnd = false)
      (hothers : Collects kind (cursor.scanUntil kind).2 others after) :
      Collects kind cursor ((cursor.scanUntil kind).1 :: others) after

/-- The stretches are what the items of the kind cut the items into. -/
structure Cuts (kind : Kind) (items : List ι) (stretches : List (List ι)) : Prop where
  flatten_eq : stretches.flatten = items
  ne_nil : ∀ stretch ∈ stretches, stretch ≠ []
  /-- An item of the kind is the last one of its stretch. -/
  only_last : ∀ stretch ∈ stretches, ∀ item ∈ stretch.dropLast, kind? item ≠ some kind
  /-- All stretches but the last one have such an item. -/
  endsIn : ∀ stretch ∈ stretches.dropLast, EndsIn kind stretch

/-- No items are cut into no stretches. -/
theorem cuts_nil (kind : Kind) : Cuts kind ([] : List ι) [] where
  flatten_eq := rfl
  ne_nil _ hmem := nomatch hmem
  only_last _ hmem := nomatch hmem
  endsIn _ hmem := nomatch hmem

variable {stretch behind : List ι} {stretches others : List (List ι)}

/-- What is cut into no stretches has no items. -/
theorem Cuts.eq_nil_iff (hcuts : Cuts kind items stretches) : stretches = [] ↔ items = [] := by
  constructor
  · rintro rfl
    exact hcuts.flatten_eq.symm
  · rintro rfl
    refine List.eq_nil_iff_forall_not_mem.2 fun stretch hmem => hcuts.ne_nil stretch hmem ?_
    exact List.flatten_eq_nil_iff.1 hcuts.flatten_eq stretch hmem

/-- A stretch before others. Only where nothing stands behind it need no item of the kind end it. -/
theorem Cuts.cons (hcuts : Cuts kind behind others) (hne : stretch ≠ [])
    (honly : ∀ item ∈ stretch.dropLast, kind? item ≠ some kind)
    (hends : EndsIn kind stretch ∨ behind = []) :
    Cuts kind (stretch ++ behind) (stretch :: others) where
  flatten_eq := by rw [List.flatten_cons, hcuts.flatten_eq]
  ne_nil := List.forall_mem_cons.2 ⟨hne, hcuts.ne_nil⟩
  only_last := List.forall_mem_cons.2 ⟨honly, hcuts.only_last⟩
  endsIn := by
    cases others with
    | nil => exact fun _ hmem => nomatch hmem
    | cons next more =>
        have hbehind : behind ≠ [] := mt hcuts.eq_nil_iff.2 (List.cons_ne_nil _ _)
        rw [List.dropLast_cons_cons]
        exact List.forall_mem_cons.2 ⟨hends.resolve_right hbehind, hcuts.endsIn⟩

/-- The first stretch of a cut is that through the first item of the kind. -/
theorem Cuts.head_eq (hcuts : Cuts kind items (stretch :: others)) :
    stretch = upTo kind items := by
  have hends : EndsIn kind stretch ∨ others.flatten = [] := by
    cases others with
    | nil => exact .inr rfl
    | cons next more => exact .inl (hcuts.endsIn stretch (by simp))
  rw [← hcuts.flatten_eq, List.flatten_cons]
  exact (upTo_append (hcuts.ne_nil _ List.mem_cons_self)
    (hcuts.only_last _ List.mem_cons_self) hends).symm

/-- The stretches behind the first one cut what stands behind it. -/
theorem Cuts.tail (hcuts : Cuts kind items (stretch :: others)) :
    Cuts kind others.flatten others where
  flatten_eq := rfl
  ne_nil := (List.forall_mem_cons.1 hcuts.ne_nil).2
  only_last := (List.forall_mem_cons.1 hcuts.only_last).2
  endsIn := by
    cases others with
    | nil => exact fun _ hmem => nomatch hmem
    | cons next more =>
        have hends := hcuts.endsIn
        rw [List.dropLast_cons_cons] at hends
        exact (List.forall_mem_cons.1 hends).2

/-- The items of a kind cut items in one way only. -/
theorem Cuts.unique (hcuts : Cuts kind items stretches) (hothers : Cuts kind items others) :
    stretches = others := by
  induction stretches generalizing items others with
  | nil => exact (hothers.eq_nil_iff.2 (hcuts.eq_nil_iff.1 rfl)).symm
  | cons stretch more ih =>
      cases others with
      | nil => exact hcuts.eq_nil_iff.2 (hothers.eq_nil_iff.1 rfl)
      | cons other rest =>
          obtain rfl : stretch = other := hcuts.head_eq.trans hothers.head_eq.symm
          have hflatten : more.flatten = rest.flatten :=
            List.append_cancel_left (hcuts.flatten_eq.trans hothers.flatten_eq.symm)
          rw [ih hcuts.tail (hflatten ▸ hothers.tail)]

/-- There are no more stretches than items. -/
theorem Cuts.length_le (hcuts : Cuts kind items stretches) : stretches.length ≤ items.length := by
  induction stretches generalizing items with
  | nil => exact Nat.zero_le _
  | cons stretch others ih =>
      have hfirst : 0 < stretch.length :=
        List.length_pos_iff.2 (hcuts.ne_nil _ List.mem_cons_self)
      have hrest := ih hcuts.tail
      rw [← hcuts.flatten_eq, List.flatten_cons, List.length_append, List.length_cons]
      omega

/-- Asking for stretches comes to one end only. -/
theorem Collects.unique {cursor after last : Cursor ι}
    (hcollects : Collects kind cursor stretches after)
    (hothers : Collects kind cursor others last) : others = stretches ∧ last = after := by
  induction hcollects generalizing others with
  | stop hend =>
      cases hothers with
      | stop => exact ⟨rfl, rfl⟩
      | more hmore => simp [hend] at hmore
  | more hmore _ ih =>
      cases hothers with
      | stop hend => simp [hend] at hmore
      | more _ hothers =>
          obtain ⟨rfl, rfl⟩ := ih hothers
          exact ⟨rfl, rfl⟩

/-- Asking for stretches comes to an end with a cut of the items left. -/
theorem exists_collects_cuts (cursor : Cursor ι) (kind : Kind) :
    ∃ stretches after, Collects kind cursor stretches after ∧ Cuts kind cursor.rest stretches ∧
      after.isAtEnd = true ∧ after.items = cursor.items := by
  -- On the number of items left, which every stretch that is asked for before the end lowers.
  induction hlength : cursor.rest.length using Nat.strongRecOn generalizing cursor with
  | ind length ih =>
      cases hend : cursor.isAtEnd with
      | true =>
          rw [rest_eq_nil_iff.2 hend]
          exact ⟨[], cursor, .stop hend, cuts_nil kind, hend, rfl⟩
      | false =>
          have hrest : cursor.rest ≠ [] := fun h => by simp [rest_eq_nil_iff.1 h] at hend
          have hne : (cursor.scanUntil kind).1 ≠ [] := upTo_ne_nil hrest
          have hsplit := scanUntil_append_rest cursor kind
          have hless : (cursor.scanUntil kind).2.rest.length < length := by
            have hpos := List.length_pos_iff.2 hne
            rw [← hlength, ← hsplit, List.length_append]
            omega
          obtain ⟨others, after, hcollects, hcuts, hafter, hitems⟩ := ih _ hless _ rfl
          refine ⟨_, after, .more hend hcollects, ?_, hafter, hitems⟩
          rw [← hsplit]
          refine hcuts.cons hne (kind?_ne_of_mem_dropLast kind cursor.rest) ?_
          -- A stretch that no item of the kind ends is all that is left.
          refine (endsIn_upTo_or kind cursor.rest).imp_right fun hall => ?_
          exact List.append_right_eq_self.1 (hsplit.trans hall.1.symm)

/-- Asking for the stretch through the next item of a kind until the end is reached comes to an end,
in one way and after no more rounds than there are items left. The stretches are the only cut of
the items left by those of the kind: none is empty, together they are the items left, and an item of
the kind stands in each exactly once and last, except that the last stretch may have none. -/
theorem exists_collects (cursor : Cursor ι) (kind : Kind) :
    ∃ stretches after,
      (∀ others last, Collects kind cursor others last ↔ others = stretches ∧ last = after) ∧
      (∀ others, Cuts kind cursor.rest others ↔ others = stretches) ∧
      stretches.length ≤ cursor.rest.length ∧
      after.isAtEnd = true ∧ after.items = cursor.items := by
  obtain ⟨stretches, after, hcollects, hcuts, hend, hitems⟩ := exists_collects_cuts cursor kind
  refine ⟨stretches, after, fun others last => ⟨hcollects.unique, ?_⟩,
    fun others => ⟨fun hothers => hothers.unique hcuts, ?_⟩, hcuts.length_le, hend, hitems⟩
  · rintro ⟨rfl, rfl⟩
    exact hcollects
  · rintro rfl
    exact hcuts

end Cursor

end TokenTree
