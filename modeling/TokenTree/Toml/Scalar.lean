import TokenTree.Text.Numeral
import TokenTree.Toml.Text
import TokenTree.Toml.Value

/-!
# Values of one word

A word is a run of letters, digits and the signs that occur in numbers and dates. It denotes a
truth value, a whole number of at most 128 bits, a floating-point number or a moment of time, or
nothing. Between two digits of a number a single underscore may stand.
-/

namespace TokenTree.Toml

/-- A character that a word may hold. -/
def isWordChar (c : Char) : Bool :=
  c.isAlphanum || c = '+' || c = '-' || c = '_' || c = '.' || c = ':'

/-! ## Numbers -/

/-- Digits with single underscores between them, without the underscores. -/
def digits? (isDigit : Char → Bool) : List Char → Option (List Char)
  | [] => none
  | [c] => if isDigit c then some [c] else none
  | c :: '_' :: rest => if isDigit c then (digits? isDigit rest).map (c :: ·) else none
  | c :: next :: rest =>
      if isDigit c then (digits? isDigit (next :: rest)).map (c :: ·) else none

/-- Decimal digits without a leading zero. -/
def decimal? (text : List Char) : Option (List Char) :=
  (digits? Char.isDigit text).filter fun digits => digits.length = 1 || digits.head? ≠ some '0'

/-- The sign of a number, true for minus, and what follows it. -/
def sign : List Char → Bool × List Char
  | '-' :: rest => (true, rest)
  | '+' :: rest => (false, rest)
  | rest => (false, rest)

/-- The number that digits denote in a base up to sixteen. -/
def ofDigitsIn (base : Nat) (digits : List Char) : Nat :=
  digits.foldl (fun number c => base * number + (hexValue? c).getD 0) 0

/-- Digits in a base up to sixteen. -/
def inBase? (base : Nat) (text : List Char) : Option Nat :=
  (digits? (fun c => (hexValue? c).any (· < base)) text).map (ofDigitsIn base)

/-- The whole number that a word denotes, of any size. -/
def whole? : List Char → Option Int
  | '0' :: 'x' :: rest => (inBase? 16 rest).map Int.ofNat
  | '0' :: 'o' :: rest => (inBase? 8 rest).map Int.ofNat
  | '0' :: 'b' :: rest => (inBase? 2 rest).map Int.ofNat
  | text =>
      let (negative, rest) := sign text
      (decimal? rest).map fun digits =>
        if negative then -(Text.ofDigits digits : Int) else Text.ofDigits digits

/-- The smallest whole number that is read, of 128 bits with a sign. -/
def minWhole : Int := -0x80000000000000000000000000000000

/-- The largest whole number that is read, of 128 bits without a sign. -/
def maxWhole : Int := 0xFFFFFFFFFFFFFFFFFFFFFFFFFFFFFFFF

/-- The exponent after a fraction, zero if there is none. -/
def exponent? : List Char → Option Int
  | [] => some 0
  | c :: rest => do
      guard (c = 'e' || c = 'E')
      let (negative, rest) := sign rest
      let digits ← digits? Char.isDigit rest
      return if negative then -(Text.ofDigits digits : Int) else Text.ofDigits digits

/-- The floating-point number that a word denotes. -/
def floating? (text : List Char) : Option Floating := do
  let (negative, text) := sign text
  if text = ['i', 'n', 'f'] then return .infinite negative
  if text = ['n', 'a', 'n'] then return .notANumber
  let isExponent (c : Char) : Bool := c = 'e' || c = 'E'
  let (before, rest) := text.span fun c => c ≠ '.' && !isExponent c
  let wholePart ← decimal? before
  match rest with
  | '.' :: rest =>
      let (after, rest) := rest.span (!isExponent ·)
      let fraction ← digits? Char.isDigit after
      let exponent ← exponent? rest
      let number ← Binary.ofDecimal? (Text.ofDigits (wholePart ++ fraction))
        (exponent - fraction.length)
      return .finite negative number
  | c :: rest =>
      let exponent ← exponent? (c :: rest)
      return .finite negative (← Binary.ofDecimal? (Text.ofDigits wholePart) exponent)
  | [] => none

/-! ## Dates and times -/

/-- The number that so many digits denote, and what follows them. -/
def fixed? (size : Nat) (text : List Char) : Option (Nat × List Char) :=
  let digits := text.take size
  if digits.length = size ∧ digits.all Char.isDigit then some (Text.ofDigits digits, text.drop size)
  else none

/-- What follows a given character. -/
def after? (c : Char) : List Char → Option (List Char)
  | [] => none
  | d :: rest => if c = d then some rest else none

/-- The number of days of a month. -/
def daysIn (year month : Nat) : Nat :=
  if month = 2 then
    if year % 4 = 0 ∧ (year % 100 ≠ 0 ∨ year % 400 = 0) then 29 else 28
  else if month = 4 ∨ month = 6 ∨ month = 9 ∨ month = 11 then 30
  else 31

/-- What follows a date. -/
def afterDate? (text : List Char) : Option (List Char) := do
  let (year, text) ← fixed? 4 text
  let (month, text) ← fixed? 2 (← after? '-' text)
  let (day, text) ← fixed? 2 (← after? '-' text)
  guard (1 ≤ month ∧ month ≤ 12 ∧ 1 ≤ day ∧ day ≤ daysIn year month)
  return text

/-- What follows a fraction of a second, if there is one. -/
def afterFraction? : List Char → Option (List Char)
  | '.' :: c :: rest => if c.isDigit then some (rest.dropWhile Char.isDigit) else none
  | '.' :: [] => none
  | rest => some rest

/-- What follows a time of day. The seconds may be missing. -/
def afterTime? (text : List Char) : Option (List Char) := do
  let (hour, text) ← fixed? 2 text
  let (minute, text) ← fixed? 2 (← after? ':' text)
  guard (hour ≤ 23 ∧ minute ≤ 59)
  match text with
  | ':' :: text =>
      let (second, text) ← fixed? 2 text
      guard (second ≤ 60)
      afterFraction? text
  | text => return text

/-- A text is an offset from universal time, or empty. -/
def isOffset (text : List Char) : Bool :=
  match text with
  | [] => true
  | [c] => c = 'Z' || c = 'z'
  | c :: rest =>
      (c = '+' || c = '-') && Option.isSome do
        let (hours, rest) ← fixed? 2 rest
        let (minutes, rest) ← fixed? 2 (← after? ':' rest)
        guard (rest.isEmpty ∧ minutes ≤ 59 ∧ 60 * hours + minutes ≤ 24 * 60)

/-- A text is a date, a time, or both with or without an offset. -/
def isDatetime (text : List Char) : Bool :=
  match afterDate? text with
  | none => afterTime? text = some []
  | some [] => true
  | some (c :: rest) =>
      (c = 'T' || c = 't' || c = ' ') && ((afterTime? rest).map isOffset).getD false

/-- A moment of time with capital letters, one of them between the date and the time of day. -/
def momentText (word : List Char) : String :=
  String.ofList (word.map fun c =>
    if c = ' ' || c = 't' then 'T' else if c = 'z' then 'Z' else c)

/-! ## Words -/

/-- The value that a word denotes. -/
def ofWord? (word : List Char) : Option Value :=
  if word = ['t', 'r', 'u', 'e'] then some (.boolean true)
  else if word = ['f', 'a', 'l', 's', 'e'] then some (.boolean false)
  else if let some number := whole? word then
    if minWhole ≤ number ∧ number ≤ maxWhole then some (.integer number) else none
  else if let some number := floating? word then some (.floating number)
  else if isDatetime word then some (.datetime (momentText word))
  else none

/-- The first word of a text and what follows it. A date and a time of day with a space between them
are one word. -/
def splitWord (text : List Char) : List Char × List Char :=
  let (word, rest) := text.span isWordChar
  match rest with
  | ' ' :: c :: more =>
      if c.isDigit ∧ afterDate? word = some [] then
        let (time, rest) := (c :: more).span isWordChar
        (word ++ ' ' :: time, rest)
      else (word, rest)
  | _ => (word, rest)

/-- Read a value of one word. -/
def readWord? (text : List Char) : Option (Value × List Char) :=
  let (word, rest) := splitWord text
  (ofWord? word).map fun value => (value, rest)

end TokenTree.Toml
