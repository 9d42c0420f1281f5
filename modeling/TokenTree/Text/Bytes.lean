/-!
# Byte offsets

Offsets into a text count the bytes of its UTF-8 form. `dropBytes?` takes bytes off the front, which
it can only do up to the border between two characters.
-/

namespace TokenTree.Text

/-- The number of bytes of a text. -/
def byteLength (text : List Char) : Nat :=
  text.foldr (fun c bytes => c.utf8Size + bytes) 0

/-- The text after so many bytes, if they end between two characters. -/
def dropBytes? : List Char → Nat → Option (List Char)
  | text, 0 => some text
  | [], _ + 1 => none
  | c :: rest, count + 1 =>
      if c.utf8Size ≤ count + 1 then dropBytes? rest (count + 1 - c.utf8Size) else none

@[simp] theorem byteLength_nil : byteLength [] = 0 := rfl

@[simp] theorem byteLength_cons (c : Char) (text : List Char) :
    byteLength (c :: text) = c.utf8Size + byteLength text := rfl

@[simp] theorem byteLength_append (left right : List Char) :
    byteLength (left ++ right) = byteLength left + byteLength right := by
  induction left with
  | nil => simp
  | cons c left ih => rw [List.cons_append, byteLength_cons, ih, byteLength_cons, Nat.add_assoc]

/-- A text that is not empty has bytes. -/
theorem byteLength_pos {text : List Char} (hne : text ≠ []) : 0 < byteLength text := by
  cases text with
  | nil => exact absurd rfl hne
  | cons c rest =>
      have := c.utf8Size_pos
      simp only [byteLength_cons]
      omega

/-- What is left after some bytes is a suffix, and the bytes are those before it. -/
theorem dropBytes?_eq_some_iff {count : Nat} {text rest : List Char} :
    dropBytes? text count = some rest ↔
      ∃ front, text = front ++ rest ∧ byteLength front = count := by
  induction text generalizing count with
  | nil =>
      cases count with
      | zero =>
          simp only [dropBytes?, Option.some.injEq]
          constructor
          · rintro rfl
            exact ⟨[], rfl, rfl⟩
          · rintro ⟨front, hfront, -⟩
            exact (List.append_eq_nil_iff.1 hfront.symm).2.symm
      | succ count =>
          simp only [dropBytes?, reduceCtorEq, false_iff, not_exists, not_and]
          intro front hfront
          obtain ⟨rfl, rfl⟩ := List.append_eq_nil_iff.1 hfront.symm
          simp
  | cons c text ih =>
      have hpos := c.utf8Size_pos
      cases count with
      | zero =>
          simp only [dropBytes?, Option.some.injEq]
          constructor
          · rintro rfl
            exact ⟨[], rfl, rfl⟩
          · rintro ⟨front, hfront, hzero⟩
            cases front with
            | nil => exact hfront
            | cons d front =>
                have := d.utf8Size_pos
                simp only [byteLength_cons] at hzero
                omega
      | succ count =>
          rw [dropBytes?]
          by_cases hle : c.utf8Size ≤ count + 1
          · rw [if_pos hle, ih]
            constructor
            · rintro ⟨front, rfl, hcount⟩
              exact ⟨c :: front, rfl, by simp only [byteLength_cons]; omega⟩
            · rintro ⟨front, hfront, hcount⟩
              cases front with
              | nil => simp at hcount
              | cons d front =>
                  obtain ⟨rfl, rfl⟩ := List.cons.inj hfront
                  exact ⟨front, rfl, by simp only [byteLength_cons] at hcount; omega⟩
          · rw [if_neg hle]
            simp only [reduceCtorEq, false_iff, not_exists, not_and]
            intro front hfront hcount
            cases front with
            | nil => simp at hcount
            | cons d front =>
                obtain ⟨rfl, rfl⟩ := List.cons.inj hfront
                simp only [byteLength_cons] at hcount
                omega

/-- Bytes that cannot be taken off end inside the text, if there are as many. -/
theorem lt_of_dropBytes?_eq_none {text : List Char} {count : Nat}
    (hdrop : dropBytes? text count = none) (hle : count ≤ byteLength text) :
    count < byteLength text := by
  refine Nat.lt_of_le_of_ne hle ?_
  rintro rfl
  have hall : dropBytes? text (byteLength text) = some [] :=
    dropBytes?_eq_some_iff.2 ⟨text, (List.append_nil text).symm, rfl⟩
  rw [hall] at hdrop
  cases hdrop

/-- Fewer characters are left after some bytes. -/
theorem length_lt_of_dropBytes? {text rest : List Char} {count : Nat}
    (hdrop : dropBytes? text count = some rest) (hcount : count ≠ 0) :
    rest.length < text.length := by
  obtain ⟨front, rfl, rfl⟩ := dropBytes?_eq_some_iff.1 hdrop
  cases front with
  | nil => exact absurd rfl hcount
  | cons c front =>
      rw [List.length_append, List.length_cons]
      omega

/-- The text after the bytes of its first character. -/
@[simp] theorem dropBytes?_cons (c : Char) (rest : List Char) :
    dropBytes? (c :: rest) c.utf8Size = some rest :=
  dropBytes?_eq_some_iff.2 ⟨[c], rfl, by simp⟩

/-- Taking bytes off in two goes is taking them off in one. -/
theorem dropBytes?_add {text middle : List Char} {first : Nat}
    (hfirst : dropBytes? text first = some middle) (second : Nat) :
    dropBytes? text (first + second) = dropBytes? middle second := by
  induction text generalizing first with
  | nil =>
      cases first with
      | zero => rw [Nat.zero_add, ← Option.some.inj hfirst]
      | succ first => cases hfirst
  | cons c text ih =>
      cases first with
      | zero => rw [Nat.zero_add, ← Option.some.inj hfirst]
      | succ first =>
          rw [dropBytes?] at hfirst
          split at hfirst
          · rename_i hle
            have hsum : first + 1 + second = first + second + 1 := by omega
            have hrest : first + second + 1 - c.utf8Size = first + 1 - c.utf8Size + second := by
              omega
            rw [hsum, dropBytes?, if_pos (by omega), hrest, ih hfirst]
          · cases hfirst

/-- The bytes of a text are those before a place and those after it. -/
theorem byteLength_of_dropBytes? {text rest : List Char} {count : Nat}
    (hdrop : dropBytes? text count = some rest) : byteLength text = count + byteLength rest := by
  obtain ⟨front, rfl, rfl⟩ := dropBytes?_eq_some_iff.1 hdrop
  exact byteLength_append _ _

/-- The byte offset is that of a place between two characters, or of one of the ends. -/
def IsBoundary (text : List Char) (offset : Nat) : Prop :=
  ∃ rest, dropBytes? text offset = some rest

end TokenTree.Text
