import TokenTree.Config.Decoding
import TokenTree.Config.Encoding

/-!
# Configurations in files

A storage is a tree of directories and files below a root that has a name of its own. Configurations
are loaded from its files and saved to them; saving makes the directories on the way. Nothing is
changed where saving fails.
-/

namespace TokenTree.Config

/-- A file with its bytes, or a directory with its entries by name. -/
inductive Place where
  | file (content : ByteArray)
  | directory (entries : List (String × Place))

namespace Place

/-- The entries with one of them put in, in place of the one of its name. -/
def put (name : String) (place : Place) (entries : List (String × Place)) : List (String × Place) :=
  (name, place) :: entries.filter fun entry => entry.1 ≠ name

/-- The place that a path leads to. -/
def at? (place : Place) : List String → Option Place
  | [] => some place
  | name :: path =>
      match place with
      | .file _ => none
      | .directory entries => (entries.lookup name).bind (·.at? path)

/-- Make the directories of a path that are missing. A file must not be in the way. -/
def makeDirectories? (place : Place) (path : List String) : Option Place :=
  match place, path with
  | .file _, _ => none
  | .directory entries, [] => some (.directory entries)
  | .directory entries, name :: path => do
      let inner := (entries.lookup name).getD (.directory [])
      return .directory (put name (← inner.makeDirectories? path) entries)

/-- Write a file into a directory that exists. A directory must not be in the way. -/
def write? (content : ByteArray) (place : Place) (path : List String) : Option Place :=
  match place, path with
  | .file _, _ | .directory _, [] => none
  | .directory entries, [name] =>
      match entries.lookup name with
      | some (.directory _) => none
      | _ => some (.directory (put name (.file content) entries))
  | .directory entries, name :: path => do
      let inner ← entries.lookup name
      return .directory (put name (← inner.write? content path) entries)

/-- The text of a file. -/
def text? : Place → Option String
  | .file content => String.fromUTF8? content
  | .directory _ => none

end Place

/-- A directory with its name. -/
structure Storage where
  name : String
  root : Place := .directory []

/-- Why no configuration could be loaded from a path. -/
inductive LoadError where
  /-- There is no text at the path. -/
  | unreadable (path : String)
  /-- The text at the path is no configuration. -/
  | invalid (path : String) (cause : ReadError)

/-- The wording of a cause, as far as it is the loading's own. -/
def LoadError.message : LoadError → String
  | .unreadable path => "Failed to read grammar file at " ++ path
  | .invalid path _ => "Failed to parse grammar file at " ++ path

namespace Storage

/-- The names on a path that is written with slashes. -/
def names (path : String) : List String :=
  (path.splitOn "/").filter fun name => name ≠ "" ∧ name ≠ "."

/-- A path with the name of the storage before it. -/
def shown (storage : Storage) (path : String) : String := storage.name ++ "/" ++ path

/-- What stands at a path. -/
def at? (storage : Storage) (path : String) : Option Place := storage.root.at? (names path)

/-- The text of the file at a path. -/
def text? (storage : Storage) (path : String) : Option String :=
  (storage.at? path).bind Place.text?

/-- Make the directories of a path that are missing. -/
def makeDirectories? (storage : Storage) (path : String) : Option Storage := do
  return { storage with root := ← storage.root.makeDirectories? (names path) }

/-- Write a file into a directory that exists. -/
def write? (storage : Storage) (path : String) (content : ByteArray) : Option Storage := do
  return { storage with root := ← storage.root.write? content (names path) }

/-- The configuration at a path, or nothing if nothing is there. -/
def load (storage : Storage) (path : String) : Traced LoadError (Option Config) :=
  match storage.at? path with
  | none => pure none
  | some place =>
      match place.text? with
      | none => .fail (.unreadable (storage.shown path))
      | some text =>
          match read text with
          | .error cause => .fail (.invalid (storage.shown path) cause)
          | .ok config => do
              .note .debug ("loaded grammar from " ++ storage.shown path ++ ": " ++
                toString config.rules.length ++ " rules, " ++ toString config.blocks.length ++
                " blocks")
              return some config

/-- Save a configuration at a path, and make the directories that are missing on the way. -/
def save? (storage : Storage) (path : String) (config : Config) : Option Storage := do
  let root ← storage.root.makeDirectories? (names path).dropLast
  return { storage with root := ← root.write? config.write.toUTF8 (names path) }

end Storage

end TokenTree.Config
