import TokenTree.Pattern.Term
import TokenTree.Text.Blank
import TokenTree.Text.Letter

/-!
# Reading patterns

`Term.read?` reads the text of a pattern. It gives nothing when the text is no pattern: brackets
that do not pair up, a repetition of nothing, an unknown escape, flag or class, a reference back, a
look around, a group name used twice, or nesting beyond the bound. Properties of characters are read
by their names, whatever these are; what has such a property is left to the meaning of the pattern.

The reader goes through the text once. Each of its loops takes a bound on its rounds, which the
length of the text gives; every round consumes a character.
-/

namespace TokenTree.Pattern

open Text (CharSet isBlank isLetter isNumber)

/-- How far the reader has come: the rest of the text, whether white space means nothing, how many
groups capture so far, and the names that groups have. -/
structure Reading where
  rest : List Char
  verbose : Bool
  captures : Nat
  names : List (List Char)

/-- A step of the reader, which fails on text that is no pattern. -/
abbrev Reader := StateT Reading Option

namespace Reader

/-- The text without the white space and comments in front, given whether a comment is open. -/
def skipBlank : Bool → List Char → List Char
  | _, [] => []
  | true, c :: rest => skipBlank (c != '\n') rest
  | false, c :: rest =>
      if isBlank c then skipBlank false rest
      else if c = '#' then skipBlank true rest
      else c :: rest

/-- The next character. -/
def peek? : Reader (Option Char) := do return (← get).rest.head?

/-- Some character is left. -/
def more : Reader Unit := do
  if (← get).rest.isEmpty then failure

/-- Pass over characters. -/
def bump (count : Nat) : Reader Unit :=
  modify fun state => { state with rest := state.rest.drop count }

/-- Pass over what means nothing here. -/
def skipSpace : Reader Unit := modify fun state =>
  if state.verbose then { state with rest := skipBlank false state.rest } else state

/-- Pass over a character and over what means nothing after it. -/
def advance : Reader Unit := do
  bump 1
  skipSpace

/-- Pass over the given text if it stands here. -/
def eat (text : List Char) : Reader Bool := do
  if text.isPrefixOf (← get).rest then
    bump text.length
    return true
  else return false

/-- Pass over the characters of a class, with what means nothing between them. -/
def collect (accept : Char → Bool) : Nat → Reader (List Char)
  | 0 => return []
  | rounds + 1 => do
      match ← peek? with
      | some c =>
          if accept c then
            advance
            return c :: (← collect accept rounds)
          else return []
      | none => return []

/-- The number of rounds that any loop over the rest of the text can take. -/
def rounds : Reader Nat := do return (← get).rest.length + 1

/-- The value of digits in a base. -/
def valueOf (base : Nat) (digits : List Char) : Nat :=
  digits.foldl (fun acc c =>
    acc * base +
      if c.isDigit then c.toNat - '0'.toNat
      else if c.isLower then c.toNat - 'a'.toNat + 10
      else c.toNat - 'A'.toNat + 10) 0

/-- A count of at most 32 bits, in which white space around the digits means nothing. -/
def count : Reader Nat := do
  modify fun state => { state with rest := state.rest.dropWhile isBlank }
  let digits ← collect Char.isDigit (← rounds)
  let _ ← collect isBlank (← rounds)
  let value := valueOf 10 digits
  if digits.isEmpty || 0x100000000 ≤ value then failure
  return value

/-! ## Escapes -/

/-- What a single place of a pattern can hold. -/
inductive Single where
  | char (c : Char)
  /-- A character that is written as a byte, with two digits. -/
  | byte (c : Char)
  | assertion (assertion : Assertion)
  | shorthand (shorthand : Shorthand) (negated : Bool)
  | property (name : List Char) (negated : Bool)

/-- The character that stands at a place, if one does. -/
def Single.char? : Single → Option Char
  | .char c | .byte c => some c
  | _ => none

/-- A single place as a part of a sequence. -/
def Single.toTerm : Single → Term
  | .char c => .char c
  | .byte c => .byte c
  | .assertion condition => .assertion condition
  | .shorthand letter negated => .shorthand letter negated
  | .property name negated => .property name negated

/-- A hexadecimal digit of either case. -/
def isHex (c : Char) : Bool :=
  c.isDigit || ('a' ≤ c && c ≤ 'f') || ('A' ≤ c && c ≤ 'F')

/-- The character of a code point, which has to be one. -/
def ofCode (code : Nat) : Reader Char :=
  if Nat.isValidChar code then return Char.ofNat code else failure

/-- Exactly so many hexadecimal digits. -/
def fixedHex : Nat → Reader (List Char)
  | 0 => return []
  | count + 1 => do
      let some c ← peek? | failure
      if !isHex c then failure
      advance
      return c :: (← fixedHex count)

/-- A character by its code point: so many digits, or any number of them in braces. Two digits are a
byte. -/
def hex (digits : Nat) : Reader Single := do
  advance
  more
  if (← peek?) == some '\x7b' then
    advance
    let code ← collect isHex (← rounds)
    if code.isEmpty || (← peek?) != some '\x7d' then failure
    advance
    return .char (← ofCode (valueOf 16 code))
  else
    let c ← ofCode (valueOf 16 (← fixedHex digits))
    return if digits = 2 then .byte c else .char c

/-- The characters through a closing brace, with what means nothing between them. The brace is not
among them. -/
def untilBrace : Nat → Reader (List Char)
  | 0 => failure
  | rounds + 1 => do
      let some c ← peek? | failure
      if c = '\x7d' then
        bump 1
        return []
      else
        advance
        return c :: (← untilBrace rounds)

/-- The name of a property, from the letter on that asks for it: a character, or any number of them
in braces. -/
def propertyName : Reader (List Char) := do
  advance
  let some c ← peek? | failure
  if c = '\\' then failure
  advance
  if c = '\x7b' then untilBrace (← rounds) else return [c]

/-- The characters that an escaped ASCII character other than a letter or digit stands for: itself,
except that the angle brackets are assertions. -/
def isEscapable (c : Char) : Bool := c.toNat < 128 && !c.isAlphanum && c != '<' && c != '>'

/-- The assertion that a name in braces after `\b` asks for. If what follows can only be a count, it
is left to be read as a repetition. -/
def boundary : Reader Assertion := do
  if (← peek?) != some '\x7b' then return .boundary
  let start ← get
  advance
  more
  let accept := fun c : Char => c.isAlpha || c == '-'
  let name ← collect accept (← rounds)
  if name.isEmpty then
    set start
    return .boundary
  if (← peek?) != some '\x7d' then failure
  bump 1
  match String.ofList name with
  | "start" => return .wordStart
  | "end" => return .wordEnd
  | "start-half" => return .wordStartHalf
  | "end-half" => return .wordEndHalf
  | _ => failure

/-- An escape, from its backslash on. -/
def escape : Reader Single := do
  bump 1
  let some c ← peek? | failure
  match c with
  | 'x' => hex 2
  | 'u' => hex 4
  | 'U' => hex 8
  | 'p' => return .property (← propertyName) false
  | 'P' => return .property (← propertyName) true
  | _ =>
      bump 1
      if isEscapable c then return .char c
      match c with
      | 'd' => return .shorthand .digit false
      | 'D' => return .shorthand .digit true
      | 's' => return .shorthand .space false
      | 'S' => return .shorthand .space true
      | 'w' => return .shorthand .word false
      | 'W' => return .shorthand .word true
      | 'a' => return .char '\x07'
      | 'f' => return .char '\x0c'
      | 't' => return .char '\t'
      | 'n' => return .char '\n'
      | 'r' => return .char '\r'
      | 'v' => return .char '\x0b'
      | 'A' => return .assertion .textStart
      | 'z' => return .assertion .textEnd
      | 'b' => return .assertion (← boundary)
      | 'B' => return .assertion .notBoundary
      | '<' => return .assertion .wordStart
      | '>' => return .assertion .wordEnd
      | _ => failure

/-! ## Sets in brackets -/

/-- The ASCII classes that have a name inside brackets. -/
def posixNamed? (name : String) : Option CharSet :=
  let ranges : Option (List (Nat × Nat)) :=
    match name with
    | "alnum" => some [(0x30, 0x39), (0x41, 0x5A), (0x61, 0x7A)]
    | "alpha" => some [(0x41, 0x5A), (0x61, 0x7A)]
    | "ascii" => some [(0x00, 0x7F)]
    | "blank" => some [(0x09, 0x09), (0x20, 0x20)]
    | "cntrl" => some [(0x00, 0x1F), (0x7F, 0x7F)]
    | "digit" => some [(0x30, 0x39)]
    | "graph" => some [(0x21, 0x7E)]
    | "lower" => some [(0x61, 0x7A)]
    | "print" => some [(0x20, 0x7E)]
    | "punct" => some [(0x21, 0x2F), (0x3A, 0x40), (0x5B, 0x60), (0x7B, 0x7E)]
    | "space" => some [(0x09, 0x0D), (0x20, 0x20)]
    | "upper" => some [(0x41, 0x5A)]
    | "word" => some [(0x30, 0x39), (0x41, 0x5A), (0x5F, 0x5F), (0x61, 0x7A)]
    | "xdigit" => some [(0x30, 0x39), (0x41, 0x46), (0x61, 0x66)]
    | _ => none
  ranges.map CharSet.mk

/-- A named class such as `[:alpha:]`, if one stands here; otherwise nothing is read. -/
def posix? : Reader (Option SetTerm) := do
  let start ← get
  if !(← eat ['[', ':']) then return none
  let negated ← eat ['^']
  let name := (← get).rest.takeWhile (· != ':')
  bump name.length
  match posixNamed? (String.ofList name) with
  | some set =>
      if ← eat [':', ']'] then return some (.posix set negated)
  | none => pure ()
  set start
  return none

/-- The hyphens that a set starts with, which stand for themselves. -/
def hyphens : Nat → Reader (List SetTerm)
  | 0 => return []
  | rounds + 1 => do
      if (← peek?) == some '-' then
        advance
        more
        return .char '-' :: (← hyphens rounds)
      else return []

/-- The start of a set, from its bracket on: whether it is negated, and the characters that stand
for themselves only here. -/
def openSet : Reader (Bool × List SetTerm) := do
  advance
  more
  let negated := (← peek?) == some '^'
  if negated then
    advance
    more
  let items ← hyphens (← rounds)
  if items.isEmpty && (← peek?) == some ']' then
    advance
    more
    return (negated, [.char ']'])
  return (negated, items)

/-- A character of a set, or an escape in it. -/
def setSingle : Reader Single := do
  let some c ← peek? | failure
  if c = '\\' then escape
  else
    bump 1
    return .char c

/-- A single place as an item of a set. Assertions have no place there. -/
def Single.toItem : Single → Reader SetTerm
  | .char c | .byte c => return .char c
  | .shorthand letter negated => return .shorthand letter negated
  | .property name negated => return .property name negated
  | .assertion _ => failure

/-- The first character that means something, given whether a comment is open; a comment that has
begun hides only its mark. -/
def firstVisible? : Bool → List Char → Option Char
  | _, [] => none
  | commented, c :: rest =>
      if isBlank c then firstVisible? commented rest
      else if !commented && c == '#' then firstVisible? true rest
      else some c

/-- The character after the next one. -/
def peekAfter? : Reader (Option Char) := do
  let state ← get
  let after := state.rest.drop 1
  if state.verbose then return firstVisible? false after <|> after.head?
  else return after.head?

/-- An item of a set: a character, a class, or a range. A hyphen before the closing bracket or
before another hyphen makes no range. -/
def setRange : Reader SetTerm := do
  let first ← setSingle
  skipSpace
  more
  let after ← peekAfter?
  if (← peek?) != some '-' || after == some ']' || after == some '-' then first.toItem
  else
    advance
    more
    match first.char?, (← setSingle).char? with
    | some low, some high => if low ≤ high then return .range low high else failure
    | _, _ => failure

/-- The items so far as the right side of the operation that waits for them, if one does. -/
def settle (pending : Option (SetOp × SetTerm)) (items : List SetTerm) : SetTerm :=
  match pending with
  | some (op, left) => .op op left (.union items)
  | none => .union items

/-- The rest of a set through its closing bracket, given the operation that waits for its right side
and the items so far. -/
def setBody : Nat → Option (SetOp × SetTerm) → List SetTerm → Reader SetTerm
  | 0, _, _ => failure
  | rounds + 1, pending, items => do
      skipSpace
      match (← get).rest with
      | [] => failure
      | '[' :: _ =>
          match ← posix? with
          | some item => setBody rounds pending (items ++ [item])
          | none => do
              let (negated, initial) ← openSet
              let body ← setBody rounds none initial
              setBody rounds pending (items ++ [.bracket body negated])
      | ']' :: _ => do
          bump 1
          return settle pending items
      | '&' :: '&' :: _ => do
          bump 2
          setBody rounds (some (.inter, settle pending items)) []
      | '-' :: '-' :: _ => do
          bump 2
          setBody rounds (some (.diff, settle pending items)) []
      | '~' :: '~' :: _ => do
          bump 2
          setBody rounds (some (.symmDiff, settle pending items)) []
      | _ => do
          let item ← setRange
          setBody rounds pending (items ++ [item])

/-- A set from its opening bracket on. -/
def bracketed : Reader Term := do
  let (negated, initial) ← openSet
  let body ← setBody (← rounds) none initial
  return .set body negated

/-! ## Groups -/

/-- The flag of a letter. -/
def flagOf? : Char → Option Flag
  | 'i' => some .caseless
  | 'm' => some .multiline
  | 's' => some .dotAll
  | 'U' => some .swapGreed
  | 'u' => some .unicode
  | 'R' => some .crlf
  | 'x' => some .verbose
  | _ => none

/-- The flags of a group or directive, each at most once, of which those after the one hyphen are
switched off. The hyphen has to be followed by a flag. -/
def flags : Nat → Bool → Settings → Reader Settings
  | 0, _, _ => failure
  | rounds + 1, negated, settings => do
      let some c ← peek? | failure
      if c = ':' || c = ')' then return settings
      bump 1
      if c = '-' then
        let next ← peek?
        if negated || next == some ':' || next == some ')' then failure
        flags rounds true settings
      else
        let some flag := flagOf? c | failure
        if settings.any (·.1 == flag) then failure
        flags rounds negated (settings ++ [(flag, !negated)])

/-- The character may stand in a group name, or start one. -/
def isNameChar (first : Bool) (c : Char) : Bool :=
  if first then c = '_' || isLetter c
  else c = '_' || c = '.' || c = '[' || c = ']' || isLetter c || isNumber c

/-- A group name through its closing bracket, which no other group has. -/
def groupName : Reader Unit := do
  let state ← get
  let name := state.rest.takeWhile (· != '>')
  let valid := match name with
    | [] => false
    | first :: others => isNameChar true first && others.all (isNameChar false)
  if !valid || state.names.contains name then failure
  bump name.length
  if !(← eat ['>']) then failure
  modify fun state => { state with names := name :: state.names }

/-- What an opening parenthesis begins. -/
inductive Opening where
  | directive (settings : Settings)
  | group (settings : Settings)
  | capture (index : Nat)

/-- A group that captures gets the next index. -/
def nextCapture : Reader Opening := do
  let index := (← get).captures + 1
  modify fun state => { state with captures := index }
  return .capture index

/-- The start of a group, or a whole directive, from its parenthesis on. -/
def opening : Reader Opening := do
  advance
  let text := (← get).rest
  if [['?', '='], ['?', '!'], ['?', '<', '='], ['?', '<', '!']].any (·.isPrefixOf text) then
    failure
  let isNamed ← eat ['?', 'P', '<']
  let isNamed ← if isNamed then pure true else eat ['?', '<']
  if isNamed then
    let capture ← nextCapture
    groupName
    return capture
  else if ← eat ['?'] then
    let settings ← flags (← rounds) false []
    let close ← peek?
    bump 1
    if close == some ')' then
      if settings.isEmpty then failure
      return .directive settings
    else return .group settings
  else nextCapture

/-! ## Sequences and alternations -/

/-- The parts with the last one repeated. There has to be one, and a directive cannot be repeated.
-/
def repeatLast (parts : List Term) (low : Nat) (high : Option Nat) (greedy : Bool) :
    Reader (List Term) :=
  match parts.getLast? with
  | none | some (.flags _) => failure
  | some body => return parts.dropLast ++ [.repetition low high greedy body]

/-- The bounds of a counted repetition, from its brace on, and whether it is greedy. -/
def counts : Reader (Nat × Option Nat × Bool) := do
  advance
  let low ← count
  let high ←
    if (← peek?) == some ',' then
      advance
      if (← peek?) == some '\x7d' then pure none else some <$> count
    else pure (some low)
  if (← peek?) != some '\x7d' then failure
  advance
  let isLazy ← eat ['?']
  if high.any (· < low) then failure
  return (low, high, !isLazy)

/-- The state of the verbose flag that the settings ask for, or the one given. -/
def verboseIn (settings : Settings) (verbose : Bool) : Bool :=
  (settings.lookup .verbose).getD verbose

/-- The branches so far and the last one as one term. -/
def join (branches parts : List Term) : Term :=
  match branches with
  | [] => .sequence parts
  | _ => .alternation (branches ++ [.sequence parts])

/-- The rest of a group up to its closing parenthesis, or of the pattern, given the branches before
the one at hand and the parts of that one so far. -/
def body : Nat → List Term → List Term → Reader Term
  | 0, _, _ => failure
  | rounds + 1, branches, parts => do
      skipSpace
      match (← get).rest with
      | [] => return join branches parts
      | ')' :: _ => return join branches parts
      | '|' :: _ => do
          bump 1
          body rounds (branches ++ [.sequence parts]) []
      | '(' :: _ => do
          let verbose := (← get).verbose
          match ← opening with
          | .directive settings => do
              modify fun state => { state with verbose := verboseIn settings verbose }
              body rounds branches (parts ++ [.flags settings])
          | .group settings => do
              modify fun state => { state with verbose := verboseIn settings verbose }
              let inner ← body rounds [] []
              if !(← eat [')']) then failure
              modify fun state => { state with verbose := verbose }
              body rounds branches (parts ++ [.group settings inner])
          | .capture index => do
              let inner ← body rounds [] []
              if !(← eat [')']) then failure
              modify fun state => { state with verbose := verbose }
              body rounds branches (parts ++ [.capture index inner])
      | '[' :: _ => do
          let set ← bracketed
          body rounds branches (parts ++ [set])
      | '?' :: _ => do
          bump 1
          let isLazy ← eat ['?']
          body rounds branches (← repeatLast parts 0 (some 1) !isLazy)
      | '*' :: _ => do
          bump 1
          let isLazy ← eat ['?']
          body rounds branches (← repeatLast parts 0 none !isLazy)
      | '+' :: _ => do
          bump 1
          let isLazy ← eat ['?']
          body rounds branches (← repeatLast parts 1 none !isLazy)
      | '\x7b' :: _ => do
          let (low, high, greedy) ← counts
          body rounds branches (← repeatLast parts low high greedy)
      | '\\' :: _ => do
          let single ← escape
          body rounds branches (parts ++ [single.toTerm])
      | '.' :: _ => do
          bump 1
          body rounds branches (parts ++ [.dot])
      | '^' :: _ => do
          bump 1
          body rounds branches (parts ++ [.assertion .lineStart])
      | '$' :: _ => do
          bump 1
          body rounds branches (parts ++ [.assertion .lineEnd])
      | c :: _ => do
          bump 1
          body rounds branches (parts ++ [.char c])

end Reader

/-- The deepest nesting of a pattern that is accepted. -/
def maxNesting : Nat := 250

/-- The pattern that a text spells, if it spells one. -/
def Term.read? (text : List Char) : Option Term := do
  let (term, after) ← (Reader.body (text.length + 1) [] []).run ⟨text, false, 0, []⟩
  if after.rest.isEmpty && term.nesting ≤ maxNesting then some term else none

end TokenTree.Pattern
