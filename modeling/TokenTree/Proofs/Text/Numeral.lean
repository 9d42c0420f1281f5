import Mathlib.Data.Nat.Digits.Defs
import TokenTree.Text.Numeral

/-!
# Numerals are read exactly

A numeral denotes a number (`Denotes`) whether or not the number fits into 64 bits. What is read of
a text is the number that it denotes, if there is one and it fits (`readInt?_eq_some_iff`), and the
decimal writing of a number is a numeral that denotes it.
-/

namespace TokenTree.Text

variable {digits text : List Char} {value number other : Int}

/-! ## What numerals denote -/

/-- At least one ASCII digit, and no other characters. -/
def AreDigits (digits : List Char) : Prop := digits ≠ [] ∧ ∀ c ∈ digits, c.isDigit = true

/-- The number that digits denote. Each of them counts by the power of ten of its place. -/
def decimal (digits : List Char) : Nat :=
  Nat.ofDigits 10 (digits.reverse.map fun c => c.toNat - '0'.toNat)

/-- The text is a numeral of the number: digits, perhaps with a single sign before them. -/
inductive Denotes : List Char → Int → Prop where
  | unsigned {digits : List Char} (hdigits : AreDigits digits) : Denotes digits (decimal digits)
  | plus {digits : List Char} (hdigits : AreDigits digits) :
      Denotes ('+' :: digits) (decimal digits)
  | minus {digits : List Char} (hdigits : AreDigits digits) :
      Denotes ('-' :: digits) (-(decimal digits : Int))

/-- The number fits into 64 bits with a sign. -/
def Fits (number : Int) : Prop := -2 ^ 63 ≤ number ∧ number ≤ 2 ^ 63 - 1

instance : Decidable (Fits number) := inferInstanceAs (Decidable (_ ∧ _))

/-- A text that begins with a digit begins with no sign. -/
theorem AreDigits.isDigit_head {first : Char} (hdigits : AreDigits (first :: digits)) :
    first.isDigit = true := hdigits.2 first List.mem_cons_self

/-- Behind a minus the digits denote the absolute value. -/
theorem denotes_minus_iff :
    Denotes ('-' :: digits) number ↔ AreDigits digits ∧ -(decimal digits : Int) = number := by
  constructor
  · intro hdenotes
    cases hdenotes with
    | unsigned hdigits => exact absurd hdigits.isDigit_head (by decide)
    | minus hdigits => exact ⟨hdigits, rfl⟩
  · rintro ⟨hdigits, rfl⟩
    exact .minus hdigits

/-- A plus changes nothing. -/
theorem denotes_plus_iff :
    Denotes ('+' :: digits) number ↔ AreDigits digits ∧ (decimal digits : Int) = number := by
  constructor
  · intro hdenotes
    cases hdenotes with
    | unsigned hdigits => exact absurd hdigits.isDigit_head (by decide)
    | plus hdigits => exact ⟨hdigits, rfl⟩
  · rintro ⟨hdigits, rfl⟩
    exact .plus hdigits

/-- Without a sign the whole text is made of digits. -/
theorem denotes_unsigned_iff (hminus : ∀ digits, text ≠ '-' :: digits)
    (hplus : ∀ digits, text ≠ '+' :: digits) :
    Denotes text number ↔ AreDigits text ∧ (decimal text : Int) = number := by
  constructor
  · intro hdenotes
    cases hdenotes with
    | unsigned hdigits => exact ⟨hdigits, rfl⟩
    | plus => exact absurd rfl (hplus _)
    | minus => exact absurd rfl (hminus _)
  · rintro ⟨hdigits, rfl⟩
    exact .unsigned hdigits

/-- A numeral denotes one number. -/
theorem Denotes.unique (hdenotes : Denotes text number) (hother : Denotes text other) :
    number = other := by
  cases hdenotes with
  | unsigned hdigits =>
      cases hother with
      | unsigned => rfl
      | plus | minus => exact absurd hdigits.isDigit_head (by decide)
  | plus => exact (denotes_plus_iff.1 hother).2
  | minus => exact (denotes_minus_iff.1 hother).2

/-! ## What is read -/

/-- Digits are read from the left, and denote what they do by their places. -/
theorem ofDigits_eq_decimal (digits : List Char) : ofDigits digits = decimal digits := by
  rw [ofDigits, decimal, Nat.ofDigits_eq_foldr, List.foldr_map, List.foldr_reverse]
  simp only [Nat.cast_id, Nat.add_comm]

/-- A number is kept exactly if it fits. -/
theorem fit?_eq_some_iff : fit? value = some number ↔ value = number ∧ Fits number := by
  have hmin : minInt = -2 ^ 63 := by decide
  have hmax : maxInt = 2 ^ 63 - 1 := by decide
  rw [fit?, Fits, hmin, hmax]
  split <;> grind

/-- The check before a number is read is that of digits. -/
theorem isEmpty_or_not_all_iff :
    (digits.isEmpty || !digits.all Char.isDigit) = false ↔ AreDigits digits := by
  simp [AreDigits]

/-- A number is read behind the check exactly if there are digits and it fits. -/
theorem ite_fit?_eq_some_iff :
    (if digits.isEmpty || !digits.all Char.isDigit then none else fit? value) = some number ↔
      (AreDigits digits ∧ value = number) ∧ Fits number := by
  rw [← isEmpty_or_not_all_iff, and_assoc, ← fit?_eq_some_iff]
  cases digits.isEmpty || !digits.all Char.isDigit <;> simp

/-- What is read of a text is the number that it denotes, if there is one and it fits. -/
theorem readInt?_eq_some_iff :
    readInt? text = some number ↔ Denotes text number ∧ Fits number := by
  rw [readInt?.eq_def]
  split
  next negative digits hsign =>
    rw [ite_fit?_eq_some_iff, ofDigits_eq_decimal]
    -- The bound is the same for all; what is left is said sign by sign.
    refine and_congr_left fun _ => ?_
    split at hsign
    · obtain ⟨rfl, rfl⟩ := Prod.mk.inj hsign
      exact denotes_minus_iff.symm
    · obtain ⟨rfl, rfl⟩ := Prod.mk.inj hsign
      exact denotes_plus_iff.symm
    · rename_i hminus hplus
      obtain ⟨rfl, rfl⟩ := Prod.mk.inj hsign
      exact (denotes_unsigned_iff hminus hplus).symm

/-- Zeros may lead. -/
example : readInt? "+007".toList = some 7 := by decide

/-- Nothing is read exactly if no number that fits is denoted. -/
theorem readInt?_eq_none_iff :
    readInt? text = none ↔ ¬ ∃ number, Denotes text number ∧ Fits number := by
  simp only [← readInt?_eq_some_iff, ← Option.isSome_iff_exists, Option.not_isSome_iff_eq_none]

/-- Decimal digits denote the number that they are written for. -/
theorem decimal_toDigits (number : Nat) : decimal (Nat.toDigits 10 number) = number := by
  rw [← ofDigits_eq_decimal]
  exact Nat.ofDigitChars_ten_toDigits

/-- Decimal digits are digits. -/
theorem areDigits_toDigits (number : Nat) : AreDigits (Nat.toDigits 10 number) :=
  ⟨Nat.toDigits_ne_nil, fun _ => Nat.isDigit_of_mem_toDigits (by decide) (by decide)⟩

/-- The decimal writing of a number denotes it. -/
theorem denotes_toString (number : Int) : Denotes (toString number).toList number := by
  cases number with
  | ofNat number =>
      have hdigits : Denotes (Nat.toDigits 10 number) (decimal (Nat.toDigits 10 number)) :=
        .unsigned (areDigits_toDigits number)
      rw [decimal_toDigits] at hdigits
      rwa [← Nat.toList_repr] at hdigits
  | negSucc number =>
      have hdigits : Denotes ('-' :: Nat.toDigits 10 (number + 1))
          (-(decimal (Nat.toDigits 10 (number + 1)) : Int)) :=
        .minus (areDigits_toDigits (number + 1))
      have hminus : (toString (Int.negSucc number)).toList = '-' :: (number + 1).repr.toList :=
        String.toList_append
      rw [decimal_toDigits] at hdigits
      rwa [hminus, Nat.toList_repr]

end TokenTree.Text
