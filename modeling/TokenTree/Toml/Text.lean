/-!
# Strings of a document

A string stands between quotes. Between double quotes a backslash starts an escape, between single
quotes every character stands for itself. Between three quotes on each side the string may hold line
breaks and up to two quotes in a row. `Style.read?` reads a string of any of the four styles one
character at a time, `Style.write` writes one. `Style.shows` says that a style shows a content as it
is, and `Style.ofContent` takes the first style that does.
-/

namespace TokenTree.Toml

/-- A character that is no control character. -/
def isVisible (c : Char) : Bool := ' ' ≤ c && c ≠ '\x7f'

/-- A space or a tab. -/
def isBlank (c : Char) : Bool := c = ' ' || c = '\t'

/-- A character of a key without quotes. -/
def isKeyChar (c : Char) : Bool := c.isAlphanum || c = '_' || c = '-'

/-- The value of a hexadecimal digit. -/
def hexValue? (c : Char) : Option Nat :=
  if '0' ≤ c ∧ c ≤ '9' then some (c.toNat - '0'.toNat)
  else if 'a' ≤ c ∧ c ≤ 'f' then some (c.toNat - 'a'.toNat + 10)
  else if 'A' ≤ c ∧ c ≤ 'F' then some (c.toNat - 'A'.toNat + 10)
  else none

/-- One of the four ways to write a string. -/
structure Style where
  /-- Double quotes, with escapes; otherwise single quotes, without. -/
  escapes : Bool
  /-- Three quotes on each side; otherwise one. -/
  lines : Bool
deriving DecidableEq

namespace Style

/-- The quote of a style. -/
def quote (style : Style) : Char := if style.escapes then '"' else '\''

/-- The number of quotes on each side. -/
def width (style : Style) : Nat := if style.lines then 3 else 1

/-- The quotes on each side. -/
def delimiter (style : Style) : List Char := List.replicate style.width style.quote

/-! ## Reading -/

/-- How far a string has been read. -/
inductive Phase where
  /-- Just after so many quotes, which may turn out to end the string. -/
  | text (quotes : Nat)
  /-- After a backslash. -/
  | escape
  /-- Before so many hexadecimal digits of a code point. -/
  | code (left value : Nat)
  /-- In the blank space after a backslash, which must hold the end of a line. -/
  | join (ended : Bool)
deriving DecidableEq

/-- What a character does to a string that is being read. -/
inductive Move where
  /-- It is taken, and the string grows. -/
  | grow (content : List Char) (phase : Phase)
  /-- It no longer belongs to the string, which grows for the last time. -/
  | finish (content : List Char)
deriving DecidableEq

/-- The part of quotes that belongs to the string which they end, if there are enough to end it. -/
def finish? (style : Style) (quotes : Nat) : Option (List Char) :=
  if style.width ≤ quotes then some (List.replicate (quotes - style.width) style.quote) else none

/-- The move after a number of quotes, by the next two characters. -/
def textMove? (style : Style) (quotes : Nat) (c : Char) (next : Option Char) : Option Move :=
  if c = style.quote ∧ quotes + 1 < 2 * style.width then some (.grow [] (.text (quotes + 1)))
  else if let some content := style.finish? quotes then some (.finish content)
  else
    let before := List.replicate quotes style.quote
    if style.escapes ∧ c = '\\' then some (.grow before .escape)
    else if isVisible c ∨ c = '\t' ∨ style.lines ∧ (c = '\n' ∨ c = '\r' ∧ next = some '\n') then
      some (.grow (before ++ [c]) (.text 0))
    else none

/-- The character that an escape of one letter stands for. -/
def escaped? : Char → Option Char
  | 'b' => some '\x08'
  | 't' => some '\t'
  | 'n' => some '\n'
  | 'f' => some '\x0c'
  | 'r' => some '\r'
  | 'e' => some '\x1b'
  | '"' => some '"'
  | '\\' => some '\\'
  | _ => none

/-- The number of digits after the letter of an escape by code point. -/
def codeSize? : Char → Option Nat
  | 'x' => some 2
  | 'u' => some 4
  | 'U' => some 8
  | _ => none

/-- The move in the blank space after a backslash. -/
def joinMove? (style : Style) (ended : Bool) (c : Char) (next : Option Char) : Option Move :=
  if isBlank c ∨ c = '\r' ∧ next = some '\n' then some (.grow [] (.join ended))
  else if c = '\n' then some (.grow [] (.join true))
  else if ended then style.textMove? 0 c next
  else none

/-- The move in a phase, by the next two characters. -/
def move? (style : Style) (c : Char) (next : Option Char) : Phase → Option Move
  | .text quotes => style.textMove? quotes c next
  | .escape =>
      match escaped? c, codeSize? c with
      | some content, _ => some (.grow [content] (.text 0))
      | none, some size => some (.grow [] (.code size 0))
      | none, none => if style.lines then style.joinMove? false c next else none
  | .code left value => do
      let value := 16 * value + (← hexValue? c)
      if 1 < left then return .grow [] (.code (left - 1) value)
      else if value.isValidChar then return .grow [Char.ofNat value] (.text 0)
      else none
  | .join ended => style.joinMove? ended c next

/-- Read the rest of a string: its content, and what follows it. -/
def read? (style : Style) : Phase → List Char → Option (List Char × List Char)
  | .text quotes, [] => (style.finish? quotes).map fun content => (content, [])
  | _, [] => none
  | phase, c :: rest =>
      match style.move? c rest.head? phase with
      | none => none
      | some (.finish content) => some (content, c :: rest)
      | some (.grow content phase) =>
          (read? style phase rest).map fun (more, rest) => (content ++ more, rest)

/-! ## Writing -/

/-- A character as an escape, or as it is where the style shows it. -/
def writeChar (style : Style) (c : Char) : List Char :=
  if !style.escapes then [c]
  else if c = '\x08' then ['\\', 'b']
  else if c = '\t' then ['\\', 't']
  else if c = '\n' then (if style.lines then ['\n'] else ['\\', 'n'])
  else if c = '\x0c' then ['\\', 'f']
  else if c = '\r' then ['\\', 'r']
  else if c = '"' ∨ c = '\\' then ['\\', c]
  else if isVisible c then [c]
  else
    let digit (number : Nat) : Char := (Nat.digitChar number).toUpper
    ['\\', 'u', '0', '0', digit (c.toNat / 16), digit (c.toNat % 16)]

/-- The content of a string, after so many quotes. Quotes are escaped where they would end it. -/
def writeFrom (style : Style) : Nat → List Char → List Char
  | _, [] => []
  | quotes, c :: rest =>
      if c = style.quote ∧ quotes + 1 < style.width then c :: writeFrom style (quotes + 1) rest
      else style.writeChar c ++ writeFrom style 0 rest

/-- A string. If it holds line breaks, one more stands before it and is not part of it. -/
def write (style : Style) (content : List Char) : List Char :=
  style.delimiter ++ (if style.lines && content.contains '\n' then ['\n'] else []) ++
    style.writeFrom 0 content ++ style.delimiter

/-- No quotes in a row reach the limit, counting from so many before the text. -/
def runsBelow (quote : Char) (limit : Nat) : Nat → List Char → Bool
  | _, [] => true
  | count, c :: rest =>
      if c = quote then count + 1 < limit && runsBelow quote limit (count + 1) rest
      else runsBelow quote limit 0 rest

/-- The style shows every character of the content as it is. -/
def shows (style : Style) (content : List Char) : Bool :=
  content.all (fun c => isVisible c || (style.lines && c = '\n')) &&
    !(style.escapes && content.contains '\\') && runsBelow style.quote style.width 0 content

/-- The style of a key that is written as a string: the first on one line that shows the key as it
is, else double quotes. -/
def ofKey (content : List Char) : Style :=
  ([⟨true, false⟩, ⟨false, false⟩].find? (·.shows content)).getD ⟨true, false⟩

/-- The style of a string: the first that shows it as it is, else double quotes, three of them if it
holds a line break. -/
def ofContent (content : List Char) : Style :=
  ([⟨true, false⟩, ⟨false, false⟩, ⟨true, true⟩, ⟨false, true⟩].find? (·.shows content)).getD
    ⟨true, content.contains '\n'⟩

end Style

/-- The style in which a string starts, and what follows its first quotes. -/
def startString? : List Char → Option (Style × List Char)
  | '"' :: '"' :: '"' :: rest => some (⟨true, true⟩, dropBreak rest)
  | '\'' :: '\'' :: '\'' :: rest => some (⟨false, true⟩, dropBreak rest)
  | '"' :: rest => some (⟨true, false⟩, rest)
  | '\'' :: rest => some (⟨false, false⟩, rest)
  | _ => none
where
  /-- What follows a line break, if there is one. -/
  dropBreak : List Char → List Char
    | '\n' :: rest => rest
    | '\r' :: '\n' :: rest => rest
    | rest => rest

/-- Read a string. -/
def readString? (text : List Char) : Option (String × List Char) := do
  let (style, rest) ← startString? text
  let (content, rest) ← style.read? (.text 0) rest
  return (String.ofList content, rest)

end TokenTree.Toml
