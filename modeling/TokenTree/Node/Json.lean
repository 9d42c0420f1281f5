import TokenTree.Node
import TokenTree.Text.Json

/-!
# Nodes as JSON

The compact JSON of tokens and nodes. A token is an object with its kind and, when it has one, its
value; a branch is an object with its tag, when it has one, and its children. Texts and symbols are
both written as strings, so they are not told apart.
-/

namespace TokenTree

open Text (jsonString)

/-- The JSON of a value. -/
def Value.json : Value → String
  | .text content => jsonString content
  | .int number => toString number
  | .symbol name => jsonString name.name

/-- The JSON of a token. -/
def Token.json (token : Token) : String :=
  let value := match token.value with
    | some value => ",\"value\":" ++ value.json
    | none => ""
  "\x7b\"kind\":" ++ jsonString token.kind.name ++ value ++ "\x7d"

namespace Node

mutual
/-- The JSON of a node. -/
def json : Node → String
  | .leaf token => token.json
  | .branch tag children =>
      let kind := match tag with
        | some tag => "\"kind\":" ++ jsonString tag.name ++ ","
        | none => ""
      "\x7b" ++ kind ++ "\"children\":[" ++ jsonAll children ++ "]\x7d"

/-- The JSON of several nodes, separated by commas. -/
def jsonAll : List Node → String
  | [] => ""
  | [node] => node.json
  | node :: next :: rest => node.json ++ "," ++ jsonAll (next :: rest)
end

end Node

end TokenTree
