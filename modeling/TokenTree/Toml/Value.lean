import TokenTree.Text.Numeral
import TokenTree.Toml.Binary64

/-!
# TOML values and lines

A document is a list of lines: an entry gives a value to a path of keys, a table line starts the
table at a path, an element line starts a new table in the array at a path. What the lines mean
together is a table, whose entries are sorted by key (see `TokenTree.Toml.Document`).
-/

namespace TokenTree.Toml

/-- A value of a document. -/
inductive Value where
  | string (content : String)
  | integer (number : Int)
  | floating (number : Floating)
  | boolean (state : Bool)
  | datetime (text : String)
  | array (items : List Value)
  | table (entries : List (String × Value))

/-- The name of the type of a value. -/
def Value.typeName : Value → String
  | .string _ => "string"
  | .integer _ => "integer"
  | .floating _ => "float"
  | .boolean _ => "boolean"
  | .datetime _ => "datetime"
  | .array _ => "array"
  | .table _ => "table"

mutual
/-- Every whole number in a value takes at most 64 bits with a sign. -/
def Value.isNarrow : Value → Bool
  | .integer number => (Text.fit? number).isSome
  | .array items => Value.areNarrow items
  | .table entries => Value.areNarrowIn entries
  | _ => true

/-- So does every whole number in an array. -/
def Value.areNarrow : List Value → Bool
  | [] => true
  | item :: rest => item.isNarrow && Value.areNarrow rest

/-- So does every whole number in the entries of a table. -/
def Value.areNarrowIn : List (String × Value) → Bool
  | [] => true
  | (_, value) :: rest => value.isNarrow && Value.areNarrowIn rest
end

/-- A line of a document, with values of type `α`. A path is a list of keys, the outermost first. -/
inductive Line (α : Type) where
  | entry (path : List String) (value : α)
  | table (path : List String)
  | element (path : List String)

/-- The same line with other values. -/
def Line.map {α β : Type} (f : α → β) : Line α → Line β
  | .entry path value => .entry path (f value)
  | .table path => .table path
  | .element path => .element path

end TokenTree.Toml
