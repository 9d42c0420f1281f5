/-!
# Sets of characters

A set of characters is a sorted list of ranges of code points. Union, complement and the
operations made of them keep the list sorted, and membership stops at the first range beyond the
character.
-/

namespace TokenTree.Text

/-- A set of characters: ranges of code points, sorted, disjoint and not adjacent. -/
structure CharSet where
  ranges : List (Nat × Nat)
deriving DecidableEq

namespace CharSet

/-- The largest code point. -/
def lastCode : Nat := 0x10FFFF

/-- The set without members. -/
def empty : CharSet := ⟨[]⟩

/-- The code points from `low` to `high`, both included. -/
def range (low high : Nat) : CharSet := ⟨[(low, high)]⟩

/-- The set of one character. -/
def single (c : Char) : CharSet := range c.toNat c.toNat

/-- Some range of the sorted list includes the code point. -/
def coversIn : List (Nat × Nat) → Nat → Bool
  | [], _ => false
  | (low, high) :: rest, code => low ≤ code && (code ≤ high || coversIn rest code)

/-- The code point belongs to the set. -/
def covers (set : CharSet) (code : Nat) : Bool := coversIn set.ranges code

/-- The character belongs to the set. -/
def contains (set : CharSet) (c : Char) : Bool := set.covers c.toNat

/-- The sorted list with one more range, joined with the ranges that it touches. -/
def insertIn (low high : Nat) : List (Nat × Nat) → List (Nat × Nat)
  | [] => [(low, high)]
  | (a, b) :: rest =>
      if high + 1 < a then (low, high) :: (a, b) :: rest
      else if b + 1 < low then (a, b) :: insertIn low high rest
      else insertIn (min low a) (max high b) rest

/-- The set with the code points from `low` to `high` added. -/
def insert (set : CharSet) (low high : Nat) : CharSet := ⟨insertIn low high set.ranges⟩

/-- The members of either set. -/
def union (left right : CharSet) : CharSet :=
  right.ranges.foldl (fun acc (low, high) => acc.insert low high) left

/-- The code points from `start` to `last` outside the sorted list. -/
def gapsIn (last : Nat) (start : Nat) : List (Nat × Nat) → List (Nat × Nat)
  | [] => if start ≤ last then [(start, last)] else []
  | (low, high) :: rest =>
      if start < low then (start, low - 1) :: gapsIn last (high + 1) rest
      else gapsIn last (high + 1) rest

/-- The code points up to `last` that are not members. -/
def complementTo (last : Nat) (set : CharSet) : CharSet := ⟨gapsIn last 0 set.ranges⟩

/-- The code points that are not members. -/
def complement (set : CharSet) : CharSet := set.complementTo lastCode

/-- The members of both sets. -/
def inter (left right : CharSet) : CharSet := (left.complement.union right.complement).complement

/-- The members of the first set that are not in the second. -/
def diff (left right : CharSet) : CharSet := left.inter right.complement

/-- The members of exactly one of the two sets. -/
def symmDiff (left right : CharSet) : CharSet := (left.diff right).union (right.diff left)

/-- The only member, when there is exactly one. -/
def single? (set : CharSet) : Option Char :=
  match set.ranges with
  | [(low, high)] => if low = high then some (Char.ofNat low) else none
  | _ => none

/-! ## Tables -/

/-- The code point that hexadecimal digits denote. -/
def codeOf (digits : String) : Nat :=
  digits.foldl (fun acc c =>
    16 * acc + if c.isDigit then c.toNat - '0'.toNat else c.toNat - 'A'.toNat + 10) 0

/-- The ranges of an entry in a table: a code point such as `AA`, the code points from one to
another as in `41-5A`, or some of them at equal distances as in `100-136/2`. -/
def entryRanges (entry : String) : List (Nat × Nat) :=
  match entry.splitOn "-" with
  | [low, high] =>
      match high.splitOn "/" with
      | [last, step] =>
          (List.range ((codeOf last - codeOf low) / codeOf step + 1)).map fun i =>
            (codeOf low + codeOf step * i, codeOf low + codeOf step * i)
      | _ => [(codeOf low, codeOf high)]
  | _ => [(codeOf entry, codeOf entry)]

/-- The set that a table lists, whose entries are in order, with blanks and line breaks between
them. -/
def ofTable (table : String) : CharSet :=
  ⟨((table.splitToList Char.isWhitespace).filter (· ≠ "")).flatMap entryRanges⟩

/-- The members of any of several sets. -/
def unions (sets : List CharSet) : CharSet := sets.foldl union empty

end CharSet

end TokenTree.Text
