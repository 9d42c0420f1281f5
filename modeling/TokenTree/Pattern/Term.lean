import TokenTree.Text.CharSet

/-!
# Patterns as written

The tree that the text of a pattern spells, before flags and case are worked out. A pattern is a
regular expression over Unicode characters: literals, sets in brackets, assertions, repetitions,
groups that capture or carry flags, sequences and alternations.
-/

namespace TokenTree.Pattern

open Text (CharSet)

/-- A mode that a pattern can switch on or off. -/
inductive Flag where
  /-- Letters match in either case. -/
  | caseless
  /-- `^` and `$` also match at the ends of lines. -/
  | multiline
  /-- `.` also matches the line feed. -/
  | dotAll
  /-- Repetitions are lazy unless marked. -/
  | swapGreed
  /-- Classes and assertions know all scripts, not ASCII alone. -/
  | unicode
  /-- A carriage return also ends a line. -/
  | crlf
  /-- White space and comments in the pattern mean nothing. -/
  | verbose
deriving DecidableEq

/-- The flags that one group or directive mentions, each with its new state. -/
abbrev Settings := List (Flag × Bool)

/-- A condition on the place between two characters. -/
inductive Assertion where
  | lineStart
  | lineEnd
  | textStart
  | textEnd
  | boundary
  | notBoundary
  | wordStart
  | wordEnd
  | wordStartHalf
  | wordEndHalf
deriving DecidableEq

/-- The classes that have an escape of one letter. -/
inductive Shorthand where
  | digit
  | space
  | word
deriving DecidableEq

/-- An operation between two parts of a bracketed set. -/
inductive SetOp where
  | inter
  | diff
  | symmDiff
deriving DecidableEq

/-- What stands between the brackets of a set. -/
inductive SetTerm where
  | char (c : Char)
  | range (low high : Char)
  | posix (set : CharSet) (negated : Bool)
  | shorthand (shorthand : Shorthand) (negated : Bool)
  /-- The characters that have the property of a name. -/
  | property (name : List Char) (negated : Bool)
  | bracket (body : SetTerm) (negated : Bool)
  | union (items : List SetTerm)
  | op (op : SetOp) (left right : SetTerm)

/-- A pattern as written. -/
inductive Term where
  | empty
  | flags (settings : Settings)
  | char (c : Char)
  /-- A character that is written as a byte, with two digits. -/
  | byte (c : Char)
  | dot
  | assertion (assertion : Assertion)
  | shorthand (shorthand : Shorthand) (negated : Bool)
  /-- The characters that have the property of a name. -/
  | property (name : List Char) (negated : Bool)
  | set (body : SetTerm) (negated : Bool)
  /-- At least `low` times and at most `high` times, or without an upper bound. -/
  | repetition (low : Nat) (high : Option Nat) (greedy : Bool) (body : Term)
  | group (settings : Settings) (body : Term)
  | capture (index : Nat) (body : Term)
  | concat (parts : List Term)
  | alternation (branches : List Term)

namespace SetTerm

mutual
/-- How deep brackets, unions and operations are nested. -/
def nesting : SetTerm → Nat
  | .bracket body _ => 1 + nesting body
  | .union [] => 0
  | .union [item] => nesting item
  | .union (item :: next :: rest) => 1 + max (nesting item) (nestingAll (next :: rest))
  | .op _ left right => 1 + max (nesting left) (nesting right)
  | _ => 0

/-- The deepest nesting in a list. -/
def nestingAll : List SetTerm → Nat
  | [] => 0
  | item :: rest => max (nesting item) (nestingAll rest)
end

end SetTerm

namespace Term

mutual
/-- How deep sequences, alternations, repetitions, groups and sets are nested. -/
def nesting : Term → Nat
  | .set body _ => 1 + body.nesting
  | .repetition _ _ _ body => 1 + nesting body
  | .group _ body => 1 + nesting body
  | .capture _ body => 1 + nesting body
  | .concat parts => 1 + nestingAll parts
  | .alternation branches => 1 + nestingAll branches
  | _ => 0

/-- The deepest nesting in a list. -/
def nestingAll : List Term → Nat
  | [] => 0
  | term :: rest => max (nesting term) (nestingAll rest)
end

/-- Terms one after the other; a single one stands for itself. -/
def sequence : List Term → Term
  | [] => .empty
  | [part] => part
  | parts => .concat parts

end Term

end TokenTree.Pattern
