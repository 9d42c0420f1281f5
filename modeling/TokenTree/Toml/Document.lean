import TokenTree.Toml.Value

/-!
# The meaning of the lines of a document

Lines are taken one after the other into a tree of tables that are still open. A key can be given a
value once. A table can be started by its own line once, and not at all after dotted keys have made
it; dotted keys add to tables that only lines below them or other dotted keys have made. An array of
tables grows by element lines alone. A document whose lines break these rules has no meaning.
-/

namespace TokenTree.Toml

/-- How a table came to be. -/
inductive Origin where
  /-- A line named a table inside it. -/
  | implied
  /-- A line of its own started it. -/
  | started
  /-- A dotted key led into it. -/
  | dotted
deriving DecidableEq

/-- What a key stands for while the document is read. -/
inductive Item where
  | value (value : Value)
  | table (origin : Origin) (entries : List (String × Item))
  | elements (tables : List (List (String × Item)))

/-- The entries of an open table, sorted by key. -/
abbrev Entries := List (String × Item)

namespace Entries

/-- Change what a key stands for, if the change is allowed. -/
def alter? (key : String) (change : Option Item → Option Item) : Entries → Option Entries
  | [] => (change none).map fun item => [(key, item)]
  | (name, item) :: rest =>
      if key = name then (change (some item)).map fun item => (name, item) :: rest
      else if key < name then (change none).map fun new => (key, new) :: (name, item) :: rest
      else (alter? key change rest).map ((name, item) :: ·)

/-- Give a value to a path of keys, all but the last of which lead into tables made by dotted
keys. -/
def put? (value : Value) : List String → Entries → Option Entries
  | [], _ => none
  | [key], entries =>
      entries.alter? key fun
        | none => some (.value value)
        | some _ => none
  | key :: next :: path, entries =>
      entries.alter? key fun
        | none => (put? value (next :: path) []).map (.table .dotted)
        | some (.table origin inner) =>
            if origin = .started then none
            else (put? value (next :: path) inner).map (.table origin)
        | some _ => none

/-- Change the last of several tables. -/
def changeLast? (change : Entries → Option Entries) : List Entries → Option (List Entries)
  | [] => none
  | [last] => (change last).map ([·])
  | table :: next :: rest => (changeLast? change (next :: rest)).map (table :: ·)

/-- Change the table at a path, making the tables on the way to it. Through an array of tables the
path leads into the last one. -/
def within? (change : Entries → Option Entries) : List String → Entries → Option Entries
  | [], entries => change entries
  | key :: path, entries =>
      entries.alter? key fun
        | none => (within? change path []).map (.table .implied)
        | some (.table origin inner) => (within? change path inner).map (.table origin)
        | some (.elements tables) => (changeLast? (within? change path) tables).map .elements
        | some (.value _) => none

/-- Start the table of a key. -/
def start? (key : String) (entries : Entries) : Option Entries :=
  entries.alter? key fun
    | none => some (.table .started [])
    | some (.table .implied inner) => some (.table .started inner)
    | some _ => none

/-- Start a new table in the array of a key. -/
def extend? (key : String) (entries : Entries) : Option Entries :=
  entries.alter? key fun
    | none => some (.elements [[]])
    | some (.elements tables) => some (.elements (tables ++ [[]]))
    | some _ => none

end Entries

mutual
/-- The value of an item. -/
def Item.close : Item → Value
  | .value value => value
  | .table _ entries => .table (closeEntries entries)
  | .elements tables => .array (closeTables tables)

/-- The entries of a table as values. -/
def closeEntries : List (String × Item) → List (String × Value)
  | [] => []
  | (name, item) :: rest => (name, item.close) :: closeEntries rest

/-- The tables of an array as values. -/
def closeTables : List (List (String × Item)) → List Value
  | [] => []
  | entries :: rest => .table (closeEntries entries) :: closeTables rest
end

/-- The table of an inline list of entries. -/
def tableOf? (entries : List (List String × Value)) : Option Value :=
  (entries.foldlM (fun table (path, value) => Entries.put? value path table) []).map
    fun table => .table (closeEntries table)

/-- A document that is being read: its tables, and the path of the table that entries go into. -/
structure Document where
  entries : Entries
  path : List String

namespace Document

/-- The document before its first line. -/
def empty : Document := ⟨[], []⟩

/-- Take one line. -/
def take? (document : Document) : Line Value → Option Document
  | .entry path value => do
      let entries ← document.entries.within? (Entries.put? value path) document.path
      return { document with entries }
  | .table path => do
      let key ← path.getLast?
      return ⟨← document.entries.within? (Entries.start? key) path.dropLast, path⟩
  | .element path => do
      let key ← path.getLast?
      return ⟨← document.entries.within? (Entries.extend? key) path.dropLast, path⟩

/-- The entries that the lines of a document define, sorted by key. -/
def meaning? (lines : List (Line Value)) : Option (List (String × Value)) := do
  let document ← lines.foldlM take? empty
  return closeEntries document.entries

end Document

end TokenTree.Toml
