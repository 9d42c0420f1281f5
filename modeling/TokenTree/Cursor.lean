import TokenTree.Error
import TokenTree.Node

/-!
# Cursors

A cursor is a sequence of items with a read position and one step of undo history, in the manner
of a string scanner. A stream of tokens and the body of a block are both read through one.

`scan`, `check` and `skip` ask for the current item, perhaps of a given kind, and fail without
moving when it is not there. The operations that end in `Until` go through the next item of a
kind, or to the end when there is none, and never fail. `unscan` goes back to where the last
operation that advanced had started; it does so once.
-/

namespace TokenTree

/-- Items that may have a kind to be matched by. -/
class Kinded (ι : Type) where
  kind? : ι → Option Kind

export Kinded (kind?)

instance : Kinded Token := ⟨fun token => some token.kind⟩

instance : Kinded Node := ⟨Node.kind?⟩

/-- The item has the given kind. -/
def isKind {ι : Type} [Kinded ι] (kind : Kind) (item : ι) : Bool := kind? item == some kind

/-- A sequence of items, the position of the next one to read, and the position to go back to. -/
structure Cursor (ι : Type) where
  items : List ι
  pos : Nat
  saved : Option Nat
deriving DecidableEq

namespace Cursor

variable {ι : Type}

/-- A cursor before the first of the items, with nothing to undo. -/
def ofList (items : List ι) : Cursor ι := ⟨items, 0, none⟩

/-- The number of items, read or not. -/
def length (cursor : Cursor ι) : Nat := cursor.items.length

/-- There are no items at all. -/
def isEmpty (cursor : Cursor ι) : Bool := cursor.items.isEmpty

/-- The item at the position, if one is left. -/
def current? (cursor : Cursor ι) : Option ι := cursor.items[cursor.pos]?

/-- Every item has been read. -/
def isAtEnd (cursor : Cursor ι) : Bool := cursor.length ≤ cursor.pos

/-- The items that are not read yet. -/
def rest (cursor : Cursor ι) : List ι := cursor.items.drop cursor.pos

/-- The next items, as many as asked for or as there are. -/
def peek (cursor : Cursor ι) (count : Nat) : List ι := cursor.rest.take count

/-- Move to the end; what there is to undo stays. -/
def clear (cursor : Cursor ι) : Cursor ι := { cursor with pos := cursor.length }

/-- Go back to the saved position, which is then forgotten. -/
def unscan (cursor : Cursor ι) : Cursor ι :=
  match cursor.saved with
  | some pos => { cursor with pos := pos, saved := none }
  | none => cursor

/-- Move to a position and save the present one. -/
def advanceTo (cursor : Cursor ι) (pos : Nat) : Cursor ι :=
  { cursor with pos := pos, saved := some cursor.pos }

/-- Take the current item out, leave `hole` in its place and move past it. There is nothing to undo
afterwards. -/
def takeCurrent? (cursor : Cursor ι) (hole : ι) : Option (ι × Cursor ι) :=
  cursor.current?.map fun item => (item, ⟨cursor.items.set cursor.pos hole, cursor.pos + 1, none⟩)

section Kinds

variable [Kinded ι]

/-- The current item, of the expected kind if one is given. -/
def check (cursor : Cursor ι) : Option Kind → Except Error ι
  | none =>
      match cursor.current? with
      | some item => .ok item
      | none => .error (.unexpectedEnd cursor.pos)
  | some kind =>
      match cursor.current? with
      | some item =>
          if isKind kind item then .ok item
          else .error (.typeMismatch kind (kind? item) cursor.pos)
      | none => .error (.typeMismatch kind none cursor.pos)

/-- The current item, when its kind is a member of the group. -/
def checkGroup (cursor : Cursor ι) (group : Group) : Except Error ι :=
  match cursor.current? with
  | some item =>
      if (kind? item).any group.contains then .ok item
      else .error (.typeMismatch group.name (kind? item) cursor.pos)
  | none => .error (.typeMismatch group.name none cursor.pos)

/-- The current item, as for `check`, and the cursor past it. -/
def scan (cursor : Cursor ι) (expected : Option Kind) : Except Error (ι × Cursor ι) :=
  (cursor.check expected).map fun item => (item, cursor.advanceTo (cursor.pos + 1))

/-- The current item, as for `checkGroup`, and the cursor past it. -/
def scanGroup (cursor : Cursor ι) (group : Group) : Except Error (ι × Cursor ι) :=
  (cursor.checkGroup group).map fun item => (item, cursor.advanceTo (cursor.pos + 1))

/-- The position after the current item, as for `check`, and the cursor there. -/
def skip (cursor : Cursor ι) (expected : Option Kind) : Except Error (Nat × Cursor ι) :=
  (cursor.check expected).map fun _ => (cursor.pos + 1, cursor.advanceTo (cursor.pos + 1))

/-- The items up to the first one of the kind, which is included; all of them if there is none. -/
def upTo (kind : Kind) : List ι → List ι
  | [] => []
  | item :: rest => if isKind kind item then [item] else item :: upTo kind rest

/-- The remaining items through the first one of the kind. -/
def checkUntil (cursor : Cursor ι) (kind : Kind) : List ι := upTo kind cursor.rest

/-- The number of items that `checkUntil` gives, and the cursor past them. -/
def skipUntil (cursor : Cursor ι) (kind : Kind) : Nat × Cursor ι :=
  let count := (cursor.checkUntil kind).length
  (count, cursor.advanceTo (cursor.pos + count))

/-- The items that `checkUntil` gives, and the cursor past them. -/
def scanUntil (cursor : Cursor ι) (kind : Kind) : List ι × Cursor ι :=
  let items := cursor.checkUntil kind
  (items, cursor.advanceTo (cursor.pos + items.length))

end Kinds

end Cursor

/-- What the tokeniser gives and the matching of blocks reads. -/
abbrev TokenStream := Cursor Token

/-- The body of a block, and what a reaction to a token reads ahead in. -/
abbrev Tree := Cursor Node

end TokenTree
