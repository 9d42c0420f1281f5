import TokenTree.Pattern.Expr
import TokenTree.Pattern.Term
import TokenTree.Text.Fold
import TokenTree.Text.PropertyName

/-!
# The meaning of patterns

`Term.meaning?` works out the flags of a pattern. A directive holds up to the end of the group that
it stands in, in all branches that follow; the flags of a group hold inside it. Without the flag for
Unicode a set and every item of it may hold ASCII characters only, a byte has to be one of them, and
no property is known; a pattern that asks for more has no meaning.

Which properties there are, and which characters have them, is not a part of the syntax of patterns.
A meaning is relative to `Properties` that are given; they are those of Unicode if no others are.
-/

namespace TokenTree.Pattern

open Text (CharSet)

/-- The properties of characters that a pattern can ask for. -/
class Properties where
  /-- The characters that have the property of a name, if the name is known. It is given as it is
  written in a pattern. -/
  set? : List Char → Option CharSet

instance : Properties := ⟨Text.property?⟩

/-- The state of every flag that has a part in the meaning. -/
structure Modes where
  caseless : Bool
  multiline : Bool
  dotAll : Bool
  swapGreed : Bool
  unicode : Bool
  crlf : Bool

namespace Modes

/-- The flags that a pattern starts with. -/
def initial : Modes := ⟨false, false, false, false, true, false⟩

/-- Switch flags as the settings ask. -/
def apply (modes : Modes) (settings : Settings) : Modes :=
  settings.foldl (fun modes (flag, state) =>
    match flag with
    | .caseless => { modes with caseless := state }
    | .multiline => { modes with multiline := state }
    | .dotAll => { modes with dotAll := state }
    | .swapGreed => { modes with swapGreed := state }
    | .unicode => { modes with unicode := state }
    | .crlf => { modes with crlf := state }
    | .verbose => modes) modes

/-- The set closed under case, if letters match in either case. -/
def fold (modes : Modes) (set : CharSet) : CharSet :=
  if !modes.caseless then set
  else if modes.unicode then set.closeCase
  else set.closeCase.inter (.range 0 0x7F)

/-- The characters outside a set. -/
def negate (modes : Modes) (set : CharSet) : CharSet :=
  if modes.unicode then set.complement else set.complementTo 0xFF

/-- The set, or its complement. -/
def negateIf (modes : Modes) (negated : Bool) (set : CharSet) : CharSet :=
  if negated then modes.negate set else set

/-- The characters of a shorthand. -/
def shorthand (modes : Modes) : Shorthand → CharSet
  | .digit => if modes.unicode then .digit else .range 0x30 0x39
  | .space => if modes.unicode then .blank else ⟨[(0x09, 0x0D), (0x20, 0x20)]⟩
  | .word =>
      if modes.unicode then .word
      else ⟨[(0x30, 0x39), (0x41, 0x5A), (0x5F, 0x5F), (0x61, 0x7A)]⟩

/-- The condition that an assertion stands for. -/
def look (modes : Modes) : Assertion → Look
  | .lineStart => if modes.multiline then .lineStart modes.crlf else .textStart
  | .lineEnd => if modes.multiline then .lineEnd modes.crlf else .textEnd
  | .textStart => .textStart
  | .textEnd => .textEnd
  | .boundary => .boundary !modes.unicode
  | .notBoundary => .notBoundary !modes.unicode
  | .wordStart => .wordStart !modes.unicode
  | .wordEnd => .wordEnd !modes.unicode
  | .wordStartHalf => .wordStartHalf !modes.unicode
  | .wordEndHalf => .wordEndHalf !modes.unicode

/-- A set that is allowed. Without the flag for Unicode it has to be within ASCII. -/
def allowed? (modes : Modes) (set : CharSet) : Option CharSet :=
  if modes.unicode || set.ranges.all (fun (_, high) => high ≤ 0x7F) then some set else none

section

variable [Properties]

/-- The characters that have a property, or those that do not. -/
def property? (modes : Modes) (name : List Char) (negated : Bool) : Option CharSet := do
  guard modes.unicode
  return modes.negateIf negated (modes.fold (← Properties.set? name))

mutual
/-- The characters of a set in brackets, of which all items have to be allowed. Case is folded in
every pair of brackets, before it is negated, and on both sides of an operation. -/
def members? (modes : Modes) : SetTerm → Option CharSet
  | .char c => modes.allowed? (.single c)
  | .range low high => modes.allowed? (.range low.toNat high.toNat)
  | .posix set negated => modes.allowed? (modes.negateIf negated (modes.fold set))
  | .shorthand letter negated => modes.allowed? (modes.negateIf negated (modes.shorthand letter))
  | .property name negated => modes.property? name negated
  | .bracket body negated => do
      modes.allowed? (modes.negateIf negated (modes.fold (← members? modes body)))
  | .union items => membersAll? modes items
  | .op op left right => do
      let left := modes.fold (← members? modes left)
      let right := modes.fold (← members? modes right)
      return match op with
        | .inter => left.inter right
        | .diff => left.diff right
        | .symmDiff => left.symmDiff right

/-- The characters of any of several items. -/
def membersAll? (modes : Modes) : List SetTerm → Option CharSet
  | [] => some .empty
  | item :: rest => do return (← members? modes item).union (← membersAll? modes rest)
end

end

/-- A character as an expression. -/
def charExpr (modes : Modes) (c : Char) : Expr :=
  if !modes.caseless || (!modes.unicode && 0x7F < c.toNat) then .literal [c]
  else .set (modes.fold (.single c))

/-- The characters that a dot stands for. -/
def dot (modes : Modes) : CharSet :=
  if modes.dotAll then modes.negate .empty
  else if modes.crlf then modes.negate ⟨[(0x0A, 0x0A), (0x0D, 0x0D)]⟩
  else modes.negate (.single '\n')

end Modes

namespace Term

variable [Properties]

mutual
/-- The expression of a term in given modes, and the modes that hold after it. -/
def meaningIn (modes : Modes) : Term → Option (Expr × Modes)
  | .empty => some (.empty, modes)
  | .flags settings => some (.empty, modes.apply settings)
  | .char c => some (modes.charExpr c, modes)
  | .byte c =>
      if modes.unicode || c.toNat ≤ 0x7F then some (modes.charExpr c, modes) else none
  | .dot => do return (.set (← modes.allowed? modes.dot), modes)
  | .assertion condition => some (.look (modes.look condition), modes)
  | .shorthand letter negated => do
      return (.set (← modes.allowed? (modes.negateIf negated (modes.shorthand letter))), modes)
  | .property name negated => do return (.set (← modes.property? name negated), modes)
  | .set body negated => do
      let members ← modes.members? body
      return (.set (← modes.allowed? (modes.negateIf negated (modes.fold members))), modes)
  | .repetition low high greedy body => do
      let (body, _) ← meaningIn modes body
      return (.repeated low high (greedy != modes.swapGreed) body, modes)
  | .group settings body => do
      let (body, _) ← meaningIn (modes.apply settings) body
      return (body, modes)
  | .capture index body => do
      let (body, _) ← meaningIn modes body
      return (.capture index body, modes)
  | .concat parts => do
      let (parts, modes) ← meaningsIn modes parts
      return (.sequence parts, modes)
  | .alternation branches => do
      let (branches, modes) ← meaningsIn modes branches
      return (.alternate branches, modes)

/-- The expressions of terms one after the other, each in the modes that the one before it leaves.
-/
def meaningsIn (modes : Modes) : List Term → Option (List Expr × Modes)
  | [] => some ([], modes)
  | term :: rest => do
      let (expr, modes) ← meaningIn modes term
      let (exprs, modes) ← meaningsIn modes rest
      return (expr :: exprs, modes)
end

/-- The expression of a whole pattern. -/
def meaning? (term : Term) : Option Expr := (meaningIn .initial term).map Prod.fst

end Term

end TokenTree.Pattern
