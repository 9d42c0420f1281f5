/-!
# Numerals of 64 bits

A numeral is an optional sign and at least one ASCII digit, with leading zeros allowed. It is read
only if the number fits into 64 bits with a sign.
-/

namespace TokenTree.Text

/-- The smallest number of 64 bits with a sign. -/
def minInt : Int := -0x8000000000000000

/-- The largest number of 64 bits with a sign. -/
def maxInt : Int := 0x7FFFFFFFFFFFFFFF

/-- The largest number of 64 bits without a sign. -/
def maxSize : Nat := 0xFFFFFFFFFFFFFFFF

/-- The number that decimal digits denote. -/
def ofDigits (digits : List Char) : Nat :=
  digits.foldl (fun acc c => 10 * acc + (c.toNat - '0'.toNat)) 0

/-- A number that fits. -/
def fit? (number : Int) : Option Int :=
  if minInt ≤ number ∧ number ≤ maxInt then some number else none

/-- The number that a text denotes, if it denotes one that fits. -/
def readInt? (text : List Char) : Option Int :=
  let (negative, digits) := match text with
    | '-' :: digits => (true, digits)
    | '+' :: digits => (false, digits)
    | digits => (false, digits)
  if digits.isEmpty || !digits.all Char.isDigit then none
  else fit? (if negative then -(ofDigits digits : Int) else ofDigits digits)

end TokenTree.Text
