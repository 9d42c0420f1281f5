import TokenTree.Toml.Document
import TokenTree.Toml.Scalar

/-!
# Reading a document

A document is read into its lines. Blank lines and comments may stand between lines and, within
brackets and braces, around every item; one line otherwise holds one entry or one header. A reader
of a part takes a text, and gives the part and the text after it.
-/

namespace TokenTree.Toml

/-- The number of brackets and braces that may be open at a time. -/
def maxNesting : Nat := 80

/-! ## Between the parts -/

/-- What follows the spaces and tabs at the start of a text. -/
def skipBlanks (text : List Char) : List Char := text.dropWhile isBlank

/-- What follows blank space, line breaks and comments, unless a comment holds a control character.
The flag says that the text starts inside a comment. -/
def skipTrivia? : (comment : Bool) → List Char → Option (List Char)
  | _, [] => some []
  | _, '\n' :: rest => skipTrivia? false rest
  | _, '\r' :: '\n' :: rest => skipTrivia? false rest
  | true, c :: rest => if isVisible c || c = '\t' then skipTrivia? true rest else none
  | false, c :: rest =>
      if isBlank c then skipTrivia? false rest
      else if c = '#' then skipTrivia? true rest
      else some (c :: rest)

/-- What follows a comment on its line, unless it holds a control character. -/
def skipComment? : List Char → Option (List Char)
  | [] => some []
  | '\n' :: rest => some ('\n' :: rest)
  | '\r' :: '\n' :: rest => some ('\r' :: '\n' :: rest)
  | c :: rest => if isVisible c || c = '\t' then skipComment? rest else none

/-- What follows the line break that ends a line. -/
def afterBreak? : List Char → Option (List Char)
  | [] => some []
  | '\n' :: rest => some rest
  | '\r' :: '\n' :: rest => some rest
  | _ => none

/-- What follows the end of a line, before which blank space and a comment may stand. -/
def afterLine? (text : List Char) : Option (List Char) :=
  match skipBlanks text with
  | '#' :: rest => (skipComment? rest).bind afterBreak?
  | rest => afterBreak? rest

/-! ## Keys -/

/-- Read a key: a string on one line, or a run of key characters. -/
def readKey? (text : List Char) : Option (String × List Char) :=
  match startString? text with
  | some (style, rest) =>
      if style.lines then none
      else (style.read? (.text 0) rest).map fun (key, rest) => (String.ofList key, rest)
  | none =>
      let (key, rest) := text.span isKeyChar
      if key.isEmpty then none else some (String.ofList key, rest)

/-- Read at most so many keys with points between them. -/
def readKeys? : (most : Nat) → List Char → Option (List String × List Char)
  | 0, _ => none
  | most + 1, text => do
      let (key, rest) ← readKey? text
      match skipBlanks rest with
      | '.' :: rest =>
          let (path, rest) ← readKeys? most (skipBlanks rest)
          return (key :: path, rest)
      | rest => return ([key], rest)

/-- Read a path of keys, and the blank space after it. -/
def readPath? (text : List Char) : Option (List String × List Char) :=
  readKeys? text.length text

/-! ## Values -/

/-- Read an entry with the given reader of values. -/
def readPair? {α : Type} (value? : List Char → Option (α × List Char)) (text : List Char) :
    Option ((List String × α) × List Char) := do
  let (path, rest) ← readPath? text
  let (value, rest) ← value? (skipBlanks (← after? '=' rest))
  return ((path, value), rest)

/-- Read at most so many items with commas between them and a closing character at the end. A
comma may stand after the last item. -/
def readItems? {α : Type} (item? : List Char → Option (α × List Char)) (close : Char) :
    (most : Nat) → List Char → Option (List α × List Char)
  | 0, _ => none
  | most + 1, text => do
      let text ← skipTrivia? false text
      if text.head? = some close then return ([], text.tail)
      let (item, rest) ← item? text
      match ← skipTrivia? false rest with
      | [] => none
      | c :: rest =>
          if c = close then return ([item], rest)
          else if c = ',' then
            let (items, rest) ← readItems? item? close most rest
            return (item :: items, rest)
          else none

/-- Read items up to a closing character. -/
def readList? {α : Type} (item? : List Char → Option (α × List Char)) (close : Char)
    (text : List Char) : Option (List α × List Char) :=
  readItems? item? close (text.length + 1) text

/-- Read a value in which at most so many brackets and braces are open at a time. -/
def readValue? : (nesting : Nat) → List Char → Option (Value × List Char)
  | _, '"' :: rest => (readString? ('"' :: rest)).map fun (text, rest) => (.string text, rest)
  | _, '\'' :: rest => (readString? ('\'' :: rest)).map fun (text, rest) => (.string text, rest)
  | 0, '[' :: _ | 0, '{' :: _ => none
  | nesting + 1, '[' :: rest =>
      (readList? (readValue? nesting) ']' rest).map fun (items, rest) => (.array items, rest)
  | nesting + 1, '{' :: rest => do
      let (entries, rest) ← readList? (readPair? (readValue? nesting)) '}' rest
      return (← tableOf? entries, rest)
  | _, text => readWord? text

/-! ## Lines -/

/-- Read a line, up to its end. -/
def readLine? : List Char → Option (Line Value × List Char)
  | '[' :: '[' :: rest => do
      let (path, rest) ← readPath? (skipBlanks rest)
      return (.element path, ← after? ']' (← after? ']' rest))
  | '[' :: rest => do
      let (path, rest) ← readPath? (skipBlanks rest)
      return (.table path, ← after? ']' rest)
  | text => do
      let ((path, value), rest) ← readPair? (readValue? maxNesting) text
      return (.entry path value, rest)

/-- Read at most so many lines, to the end of the text. -/
def readLines? : (most : Nat) → List Char → Option (List (Line Value))
  | 0, _ => none
  | most + 1, text => do
      let text ← skipTrivia? false text
      if text.isEmpty then return []
      let (line, rest) ← readLine? text
      return line :: (← readLines? most (← afterLine? rest))

/-- The entries that a document defines, sorted by key, or nothing if the text is not a document.
A byte order mark may stand at its start. -/
def read? (text : String) : Option (List (String × Value)) :=
  let text := match text.toList with
    | '\ufeff' :: rest => rest
    | text => text
  (readLines? (text.length + 1) text).bind Document.meaning?

end TokenTree.Toml
