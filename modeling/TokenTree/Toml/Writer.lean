import TokenTree.Toml.Text
import TokenTree.Toml.Value

/-!
# Writing a document

A document is written line by line, with a blank line before every header. A key needs quotes
unless it is made of key characters, and every string takes the first style that shows it as it
is. A list of at least two strings has a line for each of them.
-/

namespace TokenTree.Toml

/-- What can be written after a key. -/
inductive Field where
  | string (content : String)
  | number (value : Nat)
  | boolean (state : Bool)
  | strings (items : List String)
deriving DecidableEq

/-- The value that a field stands for. -/
def Field.value : Field → Value
  | .string content => .string content
  | .number value => .integer value
  | .boolean state => .boolean state
  | .strings items => .array (items.map .string)

/-- A string in the style of its content. -/
def writeString (content : String) : List Char :=
  (Style.ofContent content.toList).write content.toList

/-- A key, in quotes if it needs them. -/
def writeKey (key : String) : List Char :=
  if !key.isEmpty && key.toList.all isKeyChar then key.toList
  else (Style.ofKey key.toList).write key.toList

/-- The keys of a path with points between them. -/
def writePath : List String → List Char
  | [] => []
  | [key] => writeKey key
  | key :: next :: path => writeKey key ++ '.' :: writePath (next :: path)

/-- One item of a list on a line of its own. -/
def writeItem (item : String) : List Char :=
  List.replicate 4 ' ' ++ writeString item ++ [',', '\n']

/-- A field. -/
def Field.write : Field → List Char
  | .string content => writeString content
  | .number value => Nat.toDigits 10 value
  | .boolean true => ['t', 'r', 'u', 'e']
  | .boolean false => ['f', 'a', 'l', 's', 'e']
  | .strings [] => ['[', ']']
  | .strings [item] => '[' :: writeString item ++ [']']
  | .strings items => '[' :: '\n' :: items.flatMap writeItem ++ [']']

/-- A line with its end. -/
def Line.write : Line Field → List Char
  | .entry path field => writePath path ++ [' ', '=', ' '] ++ field.write ++ ['\n']
  | .table path => '\n' :: '[' :: writePath path ++ [']', '\n']
  | .element path => '\n' :: '[' :: '[' :: writePath path ++ [']', ']', '\n']

/-- The text of a document. -/
def write (lines : List (Line Field)) : String := String.ofList (lines.flatMap Line.write)

end TokenTree.Toml
