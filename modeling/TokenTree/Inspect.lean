import TokenTree.Grammar
import TokenTree.Tokeniser

/-!
# Inspection

The text that shows how a value is made: the constructor with its arguments, or the name of a
record with its fields. Kinds are written after a colon, texts in quotes. A record that holds a
reaction ends in two dots, because reactions cannot be shown.
-/

namespace TokenTree

/-- Values that can be inspected. -/
class Inspect (α : Type) where
  inspect : α → String

export Inspect (inspect)

namespace Inspect

/-- A constructor with one argument. -/
def application (name argument : String) : String := name ++ "(" ++ argument ++ ")"

/-- A field of a record. -/
def field (name value : String) : String := name ++ ": " ++ value

/-- A record. -/
def record (name : String) (fields : List String) : String :=
  name ++ " \x7b " ++ ", ".intercalate fields ++ " \x7d"

instance {α : Type} [Inspect α] : Inspect (Option α) where
  inspect
    | some value => application "Some" (inspect value)
    | none => "None"

instance {α : Type} [Inspect α] : Inspect (List α) where
  inspect values := "[" ++ ", ".intercalate (values.map inspect) ++ "]"

instance : Inspect Nat := ⟨toString⟩

instance : Inspect String := ⟨Text.quoted⟩

instance : Inspect Kind := ⟨fun kind => ":" ++ kind.name⟩

instance : Inspect Value where
  inspect
    | .text content => application "Text" (inspect content)
    | .int number => application "Int" (toString number)
    | .symbol name => application "Symbol" (inspect name)

instance : Inspect Token where
  inspect token :=
    record "Token" [field "kind" (inspect token.kind), field "value" (inspect token.value)]

mutual
/-- The text of a node. -/
def node : Node → String
  | .leaf token => application "Leaf" (inspect token)
  | .branch tag children =>
      record "Branch"
        [field "kind" (inspect tag),
          field "children" ("[" ++ ", ".intercalate (nodes children) ++ "]")]

/-- The texts of several nodes. -/
def nodes : List Node → List String
  | [] => []
  | first :: rest => node first :: nodes rest
end

instance : Inspect Node := ⟨node⟩

instance {ι : Type} [Inspect ι] : Inspect (Cursor ι) where
  inspect cursor :=
    record "Cursor"
      [field "items" (inspect cursor.items), field "pos" (inspect cursor.pos),
        field "prev_pos" (inspect cursor.saved)]

instance : Inspect Group where
  inspect group :=
    record "Group" [field "name" (inspect group.name), field "members" (inspect group.members)]

instance : Inspect Rule where
  inspect rule :=
    record "Rule" [field "name" (inspect rule.name), field "pattern" (inspect rule.source), ".."]

instance : Inspect Block where
  inspect block :=
    record "BlockDescriptor"
      [field "name" (inspect block.name), field "open" (inspect block.opens),
        field "close" (inspect block.closes), ".."]

instance : Inspect Unmatched where
  inspect
    | .skip => "Skip"
    | .emit name _ => record "Emit" [field "name" (inspect name)]

instance : Inspect Application where
  inspect
    | .overlapping => "Overlapping"
    | .chained => "Chained"

instance : Inspect Tokeniser where
  inspect tokeniser :=
    record "Tokeniser"
      [field "rules" (inspect tokeniser.rules), field "unmatched" (inspect tokeniser.unmatched),
        field "application" (inspect tokeniser.application)]

/-- The text of the reaction to a kind. -/
def reaction (kind : Kind) : String :=
  record "TokenDescriptor" [field "kind" (inspect kind), ".."]

end Inspect

end TokenTree
