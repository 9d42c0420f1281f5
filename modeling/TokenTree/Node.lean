import TokenTree.Token

/-!
# Nodes

A node is a leaf, which is a token, or a branch: an ordered list of nodes with perhaps a tag.
`Node.render` writes nodes as s-expressions: `id("a")` for a leaf, `[id("a"), id("b")]` for a
branch without a tag, `group(id("b"))` for a branch with one.
-/

namespace TokenTree

/-- A tree whose leaves are tokens and whose branches may be tagged. -/
inductive Node where
  | leaf (token : Token)
  | branch (tag : Option Kind) (children : List Node)

namespace Node

instance : Inhabited Node := ⟨.branch none []⟩

/-- A branch without a tag. -/
def list (children : List Node) : Node := .branch none children

/-- A branch with a tag. -/
def tagged (tag : Kind) (children : List Node) : Node := .branch (some tag) children

/-- The kind of a leaf or the tag of a branch. -/
def kind? : Node → Option Kind
  | .leaf token => some token.kind
  | .branch tag _ => tag

/-- The token of a leaf. -/
def token? : Node → Option Token
  | .leaf token => some token
  | .branch _ _ => none

/-- The children of a branch; a leaf has none. -/
def children : Node → List Node
  | .leaf _ => []
  | .branch _ children => children

mutual
/-- The number of branches on the deepest path; a leaf has depth 0. -/
def depth : Node → Nat
  | .leaf _ => 0
  | .branch _ children => 1 + depthAll children

/-- The depth of the deepest of several nodes, 0 when there is none. -/
def depthAll : List Node → Nat
  | [] => 0
  | node :: rest => max node.depth (depthAll rest)
end

mutual
/-- The tokens at the leaves, in document order. -/
def leaves : Node → List Token
  | .leaf token => [token]
  | .branch _ children => leavesAll children

/-- The leaves of several nodes, one node after the other. -/
def leavesAll : List Node → List Token
  | [] => []
  | node :: rest => node.leaves ++ leavesAll rest
end

mutual
/-- The nodes are equal: the same tags and tokens at the same places. -/
def same : Node → Node → Bool
  | .leaf left, .leaf right => left = right
  | .branch leftTag left, .branch rightTag right => leftTag = rightTag && sameAll left right
  | _, _ => false

/-- The lists are equal, node by node. -/
def sameAll : List Node → List Node → Bool
  | [], [] => true
  | left :: lefts, right :: rights => same left right && sameAll lefts rights
  | _, _ => false
end

mutual
/-- Equality of nodes is decided by walking both. -/
theorem same_iff : ∀ left right : Node, same left right = true ↔ left = right
  | .leaf _, .leaf _ => by simp [same]
  | .branch _ left, .branch _ right => by simp [same, sameAll_iff left right]
  | .leaf _, .branch _ _ => by simp [same]
  | .branch _ _, .leaf _ => by simp [same]

/-- Equality of lists of nodes is decided node by node. -/
theorem sameAll_iff : ∀ left right : List Node, sameAll left right = true ↔ left = right
  | [], [] => by simp [sameAll]
  | left :: lefts, right :: rights => by
      simp [sameAll, same_iff left right, sameAll_iff lefts rights]
  | [], _ :: _ => by simp [sameAll]
  | _ :: _, [] => by simp [sameAll]
end

instance : DecidableEq Node := fun left right => decidable_of_iff _ (same_iff left right)

mutual
/-- The node as an s-expression. -/
def render : Node → String
  | .leaf token => token.render
  | .branch none children => "[" ++ renderAll children ++ "]"
  | .branch (some tag) children => tag.name ++ "(" ++ renderAll children ++ ")"

/-- The nodes as s-expressions, separated by a comma and a space. -/
def renderAll : List Node → String
  | [] => ""
  | [node] => node.render
  | node :: next :: rest => node.render ++ ", " ++ renderAll (next :: rest)
end

instance : ToString Node := ⟨render⟩

end Node

end TokenTree
