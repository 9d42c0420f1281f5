import TokenTree.Config.Basic
import TokenTree.Toml.Reader

/-!
# Configurations from documents

A document is a configuration if its entries have the right shape. Entries are looked at in the
order of their keys, then missing ones are noticed; entries with other keys do not count. A rule
or a block may also be given as an array of what its entries hold, in their own order. The first
entry that does not fit is the cause of failure.
-/

namespace TokenTree.Config

/-! ## Causes of failure -/

/-- What is expected of a value. -/
inductive Shape where
  | string
  | boolean
  | number
  | sequence
  | map
  | rule
  | block
deriving DecidableEq

namespace Shape

/-- The words for a shape. -/
def words : Shape → String
  | .string => "a string"
  | .boolean => "a boolean"
  | .number => "usize"
  | .sequence => "a sequence"
  | .map => "a map"
  | .rule => "struct RuleConfig"
  | .block => "struct BlockConfig"

/-- The words for a shape of which parts are missing. -/
def partsWords : Shape → String
  | .rule => Shape.rule.words ++ " with 5 elements"
  | .block => Shape.block.words ++ " with 3 elements"
  | shape => shape.words

end Shape

/-- Why a value does not fit. -/
inductive Mismatch where
  | wrongType (found : Toml.Value) (expected : Shape)
  /-- A number below zero where none is allowed. -/
  | negative (number : Int)
  | missing (key : String)
  /-- An array that ends before the parts of the shape that it needs. -/
  | tooShort (length : Nat) (expected : Shape)
  /-- A name that is none of those offered. -/
  | unknownChoice (name : String) (offered : List String)
  /-- A choice that is neither a name nor a table. -/
  | noChoice
  /-- A table without the one entry that names a choice. -/
  | emptyChoice
  /-- A table with more entries than the one that names a choice. -/
  | manyChoices
  /-- Something stands beside the name of a choice. -/
  | choiceWith (content : Toml.Value)

/-- The words for a value that was found. -/
def Mismatch.describe : Toml.Value → String
  | .string content => "string " ++ Text.quoted content
  | .integer number => "integer `" ++ toString number ++ "`"
  | .floating number => "floating point `" ++ number.render ++ "`"
  | .boolean state => "boolean `" ++ toString state ++ "`"
  | .array _ => "sequence"
  | .datetime _ | .table _ => "map"

/-- Names as an offer: the only one, either of two, or one of several. -/
def offer (names : List String) : String :=
  match names.map fun name => "`" ++ name ++ "`" with
  | [] => ""
  | [only] => only
  | [first, second] => first ++ " or " ++ second
  | several => "one of " ++ ", ".intercalate several

/-- The wording of a cause. -/
def Mismatch.message : Mismatch → String
  | .wrongType value expected =>
      "invalid type: " ++ describe value ++ ", expected " ++ expected.words
  | .negative number =>
      "invalid value: integer `" ++ toString number ++ "`, expected " ++ Shape.number.words
  | .missing key => "missing field `" ++ key ++ "`"
  | .tooShort length expected =>
      "invalid length " ++ toString length ++ ", expected " ++ expected.partsWords
  | .unknownChoice name offered => "unknown variant `" ++ name ++ "`, expected " ++ offer offered
  | .noChoice => "wanted string or table"
  | .emptyChoice => "wanted exactly 1 element, found 0 elements"
  | .manyChoices => "wanted exactly 1 element, more than 1 element"
  | .choiceWith (.table _) => "expected empty table"
  | .choiceWith (.array _) => "expected empty array"
  | .choiceWith content => "expected table, found " ++ content.typeName

/-! ## Values -/

/-- Makes something of a value that fits. -/
abbrev Decoder (α : Type) := Toml.Value → Except Mismatch α

namespace Decoder

variable {α : Type}

/-- A string. -/
def string : Decoder String
  | .string content => .ok content
  | value => .error (.wrongType value .string)

/-- A truth value. -/
def boolean : Decoder Bool
  | .boolean state => .ok state
  | value => .error (.wrongType value .boolean)

/-- A number of 64 bits without a sign. -/
def number : Decoder Nat
  | .integer number =>
      if number < 0 then .error (.negative number)
      else if number ≤ Text.maxSize then .ok number.toNat
      else .error (.wrongType (.integer number) .number)
  | value => .error (.wrongType value .number)

/-- An array of what an item is. -/
def list (item : Decoder α) : Decoder (List α)
  | .array items => items.mapM item
  | value => .error (.wrongType value .sequence)

/-- A choice by its name. -/
def named [Choice α] (name : String) : Except Mismatch α :=
  match Choice.ofWord? name with
  | some choice => .ok choice
  | none => .error (.unknownChoice name ((Choice.all (α := α)).map Choice.word))

/-- A choice: its name, or a table with its name before an empty table or array. -/
def choice [Choice α] : Decoder α
  | .string name => named name
  | .table [] => .error .emptyChoice
  | .table [(name, content)] => do
      let choice ← named name
      match content with
      | .table [] | .array [] => return choice
      | content => .error (.choiceWith content)
  | .table _ => .error .manyChoices
  | _ => .error .noChoice

/-- What an entry of a table is, if there is one. -/
def atKey? (decode : Decoder α) (entries : List (String × Toml.Value)) (key : String) :
    Except Mismatch (Option α) :=
  match entries.lookup key with
  | some value => some <$> decode value
  | none => .ok none

/-- What an item of an array is, if there is one. -/
def atIndex? (decode : Decoder α) (items : List Toml.Value) (index : Nat) :
    Except Mismatch (Option α) :=
  match items[index]? with
  | some value => some <$> decode value
  | none => .ok none

/-- What has to be there. -/
def present (missing : Mismatch) : Option α → Except Mismatch α
  | some value => .ok value
  | none => .error missing

/-! ## Parts of a configuration -/

/-- A rule. -/
def rule : Decoder RuleEntry
  | .table entries => do
      let capture ← atKey? number entries "capture"
      let discard ← atKey? boolean entries "discard"
      let name ← atKey? string entries "name"
      let pattern ← atKey? string entries "pattern"
      let value ← atKey? choice entries "value"
      let name ← present (.missing "name") name
      let pattern ← present (.missing "pattern") pattern
      return ⟨name, pattern, discard.getD false, capture, value.getD .text⟩
  | .array items => do
      let name ← present (.tooShort 0 .rule) (← atIndex? string items 0)
      let pattern ← present (.tooShort 1 .rule) (← atIndex? string items 1)
      let discard ← atIndex? boolean items 2
      let capture ← atIndex? number items 3
      let value ← atIndex? choice items 4
      return ⟨name, pattern, discard.getD false, capture, value.getD .text⟩
  | .datetime _ => .error (.missing "name")
  | value => .error (.wrongType value .rule)

/-- A block. -/
def block : Decoder BlockEntry
  | .table entries => do
      let closes ← atKey? string entries "close"
      let name ← atKey? string entries "name"
      let opens ← atKey? string entries "open"
      let opens ← present (.missing "open") opens
      let closes ← present (.missing "close") closes
      return ⟨opens, closes, name⟩
  | .array items => do
      let opens ← present (.tooShort 0 .block) (← atIndex? string items 0)
      let closes ← present (.tooShort 1 .block) (← atIndex? string items 1)
      let name ← atIndex? string items 2
      return ⟨opens, closes, name⟩
  | .datetime _ => .error (.missing "open")
  | value => .error (.wrongType value .block)

/-- The members of a named group. -/
def group (entry : String × Toml.Value) : Except Mismatch (String × List String) := do
  return (entry.1, ← list string entry.2)

/-- Groups. A moment of time counts as a table that holds its text. -/
def groups : Decoder Groups
  | .table entries => return .ofList (← entries.mapM group)
  | .datetime text => .error (.wrongType (.string text) .sequence)
  | value => .error (.wrongType value .map)

end Decoder

/-! ## Configurations -/

open Decoder in
/-- The configuration that the entries of a document describe. What is missing has its default. -/
def ofEntries (entries : List (String × Toml.Value)) : Except Mismatch Config := do
  let application ← atKey? choice entries "application"
  let blocks ← atKey? (list block) entries "blocks"
  let groups ← atKey? Decoder.groups entries "groups"
  let maxDepth ← atKey? number entries "max_depth"
  let rules ← atKey? (list rule) entries "rules"
  let unmatched ← atKey? choice entries "unmatched"
  return {
    application := application.getD .overlapping
    unmatched := unmatched.getD .skip
    maxDepth := maxDepth.getD Grammar.defaultMaxDepth
    rules := rules.getD []
    blocks := blocks.getD []
    groups := groups.getD .empty }

/-- Why a text is no configuration. -/
inductive ReadError where
  /-- It is no document, or a document with a number that takes more than 64 bits with a sign. -/
  | malformed
  | mismatch (cause : Mismatch)

/-- The configuration that a text describes. A number that takes more than 64 bits with a sign does
no harm where it fits; in a document that is no configuration it is the cause of failure. -/
def read (text : String) : Except ReadError Config :=
  match Toml.read? text with
  | none => .error .malformed
  | some entries =>
      (ofEntries entries).mapError fun cause =>
        if Toml.Value.areNarrowIn entries then .mismatch cause else .malformed

end TokenTree.Config
