import TokenTree.Text.Quoted

/-!
# Tokens

A token is a kind and perhaps a value. Everything that looks at tokens (blocks, reactions,
groups) looks at the kind alone; the value travels with it. `Token.render` writes a token as an
atom of an s-expression: `id`, `id("a")`, `int(3)` or `id(:+)`.
-/

namespace TokenTree

/-- The kind of a token, the tag of a branch, or the name of a rule, block or group. -/
structure Kind where
  name : String
deriving DecidableEq, Inhabited

instance : ToString Kind := ⟨Kind.name⟩

/-- Kinds are ordered by the code points of their names. -/
instance : Ord Kind := ⟨fun left right => compare left.name right.name⟩

/-- What a token carries beside its kind. -/
inductive Value where
  | text (content : String)
  | int (number : Int)
  | symbol (name : Kind)
deriving DecidableEq

namespace Value

/-- The content of a text. -/
def text? : Value → Option String
  | .text content => some content
  | _ => none

/-- The number of an integer. -/
def int? : Value → Option Int
  | .int number => some number
  | _ => none

/-- The name of a symbol. -/
def symbol? : Value → Option Kind
  | .symbol name => some name
  | _ => none

/-- A text in quotes, an integer in decimal, a symbol after a colon. -/
def render : Value → String
  | .text content => Text.quoted content
  | .int number => toString number
  | .symbol name => ":" ++ name.name

end Value

/-- An atom of the token stream: a kind and perhaps a value. -/
structure Token where
  kind : Kind
  value : Option Value
deriving DecidableEq

namespace Token

/-- A token without a value, such as a keyword or a delimiter. -/
def bare (kind : Kind) : Token := ⟨kind, none⟩

/-- A token that carries a value. -/
def of (kind : Kind) (value : Value) : Token := ⟨kind, some value⟩

/-- The text of the token, when its value is one. -/
def text? (token : Token) : Option String := token.value.bind Value.text?

/-- The kind, followed by the value in parentheses when there is one. -/
def render (token : Token) : String :=
  match token.value with
  | some value => token.kind.name ++ "(" ++ value.render ++ ")"
  | none => token.kind.name

instance : ToString Token := ⟨render⟩

end Token

/-- A named set of kinds, for the places that accept any of several. -/
structure Group where
  name : Kind
  members : List Kind
deriving DecidableEq

/-- The kind is a member of the group. -/
def Group.contains (group : Group) (kind : Kind) : Bool := group.members.contains kind

end TokenTree
