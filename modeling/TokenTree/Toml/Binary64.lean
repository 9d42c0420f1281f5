/-!
# Decimal fractions of 64 bits

A decimal fraction is kept as the nearest number of 53 binary digits, and written with the fewest
decimal digits that read back as that number. `roundNearest?` finds the nearest number,
`shortest` the digits: for one digit, two digits and so on it tries the two neighbours on that
decimal grid, and takes the first grid with a neighbour that reads back. Everything is exact
arithmetic on natural numbers.
-/

namespace TokenTree.Toml

/-- The number `mantissa * 2 ^ exponent`. -/
structure Binary where
  mantissa : Nat
  exponent : Int
deriving DecidableEq

namespace Binary

/-- The smallest exponent. -/
def minExponent : Int := -1074

/-- The largest exponent. -/
def maxExponent : Int := 971

/-- A quotient rounded to the nearest whole number, a tie to the even one. -/
def roundQuotient (num den : Nat) : Nat :=
  let down := num / den
  let twice := 2 * (num % den)
  if twice < den then down
  else if den < twice then down + 1
  else if down % 2 = 0 then down
  else down + 1

/-- The fraction over a power of two, as numerator and denominator. -/
def scale (num den : Nat) (exponent : Int) : Nat × Nat :=
  if 0 ≤ exponent then (num, den * Nat.pow 2 exponent.toNat)
  else (num * Nat.pow 2 (-exponent).toNat, den)

/-- The nearest number of at most 53 binary digits to a fraction, unless it is too large. -/
def roundNearest? (num den : Nat) : Option Binary :=
  if num = 0 then some ⟨0, minExponent⟩
  else
    let guess : Int := (Nat.log2 num : Int) - Nat.log2 den - 52
    let fits (exponent : Int) : Bool :=
      let (top, bottom) := scale num den exponent
      top / bottom < 0x20000000000000
    let exponent := max minExponent (if fits (guess - 1) then guess - 1 else guess)
    let (top, bottom) := scale num den exponent
    let mantissa := roundQuotient top bottom
    let rounded : Binary :=
      if mantissa < 0x20000000000000 then ⟨mantissa, exponent⟩ else ⟨mantissa / 2, exponent + 1⟩
    if maxExponent < rounded.exponent then none else some rounded

/-- The number as a fraction. -/
def fraction (number : Binary) : Nat × Nat :=
  if 0 ≤ number.exponent then (number.mantissa * Nat.pow 2 number.exponent.toNat, 1)
  else (number.mantissa, Nat.pow 2 (-number.exponent).toNat)

/-- A decimal `digits * 10 ^ exponent` as a fraction. -/
def decimalFraction (digits : Nat) (exponent : Int) : Nat × Nat :=
  if 0 ≤ exponent then (digits * Nat.pow 10 exponent.toNat, 1)
  else (digits, Nat.pow 10 (-exponent).toNat)

/-- The number nearest to a decimal, unless it is too large. Far below the smallest number all
decimals are nearest to zero, and far above the largest number none is read. -/
def ofDecimal? (digits : Nat) (exponent : Int) : Option Binary :=
  let size := (Nat.toDigits 10 digits).length + exponent
  if digits = 0 ∨ size < -400 then some ⟨0, minExponent⟩
  else if 400 < size then none
  else
    let (num, den) := decimalFraction digits exponent
    roundNearest? num den

/-- The number of decimal digits before the point, less those that are zero after it. -/
def magnitude (num den : Nat) : Int :=
  let rec up (rounds : Nat) (power : Int) : Int :=
    match rounds with
    | 0 => power
    | rounds + 1 =>
        let (top, bottom) := decimalFraction 1 power
        if top * den ≤ num * bottom then up rounds (power + 1) else power
  up 700 (-330)

/-- The decimals with so many digits just below and above a fraction, nearest first. -/
def neighbours (num den : Nat) (exponent : Int) : List Nat :=
  let (top, bottom) :=
    if 0 ≤ exponent then (num, den * Nat.pow 10 exponent.toNat)
    else (num * Nat.pow 10 (-exponent).toNat, den)
  let down := top / bottom
  if 2 * (top % bottom) ≤ bottom then [down, down + 1] else [down + 1, down]

/-- The shortest decimal that reads back as the number, as digits and an exponent of ten. -/
def shortest (number : Binary) : Nat × Int :=
  let (num, den) := number.fraction
  let size := magnitude num den
  let rec search (rounds count : Nat) : Nat × Int :=
    let exponent := size - count
    match rounds, (neighbours num den exponent).find? (ofDecimal? · exponent == some number) with
    | _, some digits => (digits, exponent)
    | 0, none => (number.mantissa, 0)
    | rounds + 1, none => search rounds (count + 1)
  if number.mantissa = 0 then (0, 0) else search 17 1

end Binary

/-- A floating-point value of a document. -/
inductive Floating where
  | finite (negative : Bool) (number : Binary)
  | infinite (negative : Bool)
  | notANumber
deriving DecidableEq

/-- The value in positional decimal notation, with at least one digit after the point. -/
def Floating.render : Floating → String
  | .notANumber => "NaN"
  | .infinite negative => if negative then "-inf" else "inf"
  | .finite negative number =>
      let (digits, exponent) := number.shortest
      let text := Nat.toDigits 10 digits
      let (whole, part) :=
        if 0 ≤ exponent then
          (if digits = 0 then text else text ++ List.replicate exponent.toNat '0', [])
        else
          let count := (-exponent).toNat
          let padded := List.replicate (count + 1 - text.length) '0' ++ text
          (padded.take (padded.length - count), padded.drop (padded.length - count))
      let part := (part.reverse.dropWhile (· == '0')).reverse
      (if negative then "-" else "") ++ String.ofList whole ++ "." ++
        (if part.isEmpty then "0" else String.ofList part)

end TokenTree.Toml
