import TokenTree.Script

/-!
# Grammars

A grammar says which kinds open and close blocks, what becomes of the body of a block, what
becomes of tokens once blocks are matched, and which kinds form named groups. It starts as
`Grammar.empty` and grows by steps. A step that registers something again replaces it: a named
block by its name, a block without a name by its pair of delimiters, a reaction by its kind and a
group by its name.
-/

namespace TokenTree

/-- Makes a node of a token, reading ahead in the tree that the token stands in. -/
abbrev TokenReaction := Token → Script Node

/-- Makes one node of the body of a block. -/
abbrev BlockReaction := Tree → Traced Error Node

/-- A pair of delimiter kinds, with the reaction to what stands between them. -/
structure Block where
  name : Option Kind
  opens : Kind
  closes : Kind
  reaction : BlockReaction

namespace Block

/-- The body of the block as a branch without a tag. -/
def toList : BlockReaction := fun body => pure (.list body.items)

/-- The body of the block as a branch with the given tag. -/
def toTagged (tag : Kind) : BlockReaction := fun body => pure (.tagged tag body.items)

/-- One of the two blocks replaces the other: equal names, or no names and equal delimiters. -/
def sameSlot (left right : Block) : Bool :=
  match left.name, right.name with
  | some leftName, some rightName => leftName = rightName
  | none, none => left.opens = right.opens && left.closes = right.closes
  | _, _ => false

end Block

/-- Blocks, token reactions and groups in the order that decides which of them is found, and the
largest number of blocks that may be open at once. -/
structure Grammar where
  blocks : List Block
  reactions : List (Kind × TokenReaction)
  groups : List Group
  maxDepth : Nat

namespace Grammar

/-- The bound on open blocks where none is set. -/
def defaultMaxDepth : Nat := 256

/-- The grammar without blocks, reactions and groups. -/
def empty : Grammar := ⟨[], [], [], defaultMaxDepth⟩

/-- Add a block last, in place of the one in its slot. -/
def addBlock (grammar : Grammar) (block : Block) : Grammar :=
  { grammar with blocks := grammar.blocks.filter (fun old => !old.sameSlot block) ++ [block] }

/-- React to the tokens of a kind. -/
def addReaction (grammar : Grammar) (kind : Kind) (reaction : TokenReaction) : Grammar :=
  { grammar with reactions := (kind, reaction) :: grammar.reactions }

/-- Define a group. -/
def addGroup (grammar : Grammar) (group : Group) : Grammar :=
  { grammar with groups := group :: grammar.groups }

/-- One step of the definition of a grammar. -/
inductive Step where
  /-- A block without a name whose body becomes a branch without a tag. -/
  | block (opens closes : Kind)
  | blockWith (opens closes : Kind) (reaction : BlockReaction)
  /-- A block with a name whose body becomes a branch tagged with it. -/
  | namedBlock (name opens closes : Kind)
  | namedBlockWith (name opens closes : Kind) (reaction : BlockReaction)
  | token (kind : Kind) (reaction : TokenReaction)
  | group (name : Kind) (members : List Kind)
  | maxDepth (limit : Nat)

/-- Take one step. -/
def apply (grammar : Grammar) : Step → Grammar
  | .block opens closes => grammar.addBlock ⟨none, opens, closes, Block.toList⟩
  | .blockWith opens closes reaction => grammar.addBlock ⟨none, opens, closes, reaction⟩
  | .namedBlock name opens closes =>
      grammar.addBlock ⟨some name, opens, closes, Block.toTagged name⟩
  | .namedBlockWith name opens closes reaction =>
      grammar.addBlock ⟨some name, opens, closes, reaction⟩
  | .token kind reaction => grammar.addReaction kind reaction
  | .group name members => grammar.addGroup ⟨name, members⟩
  | .maxDepth limit => { grammar with maxDepth := limit }

/-- Take several steps in order. -/
def extend (grammar : Grammar) (steps : List Step) : Grammar := steps.foldl apply grammar

/-- The grammar that the steps define. -/
def ofSteps (steps : List Step) : Grammar := empty.extend steps

/-- The reaction to tokens of a kind, the one registered last. -/
def reaction? (grammar : Grammar) (kind : Kind) : Option TokenReaction :=
  grammar.reactions.lookup kind

/-- The group of a name, the one defined last. -/
def group? (grammar : Grammar) (name : Kind) : Option Group :=
  grammar.groups.find? fun group => group.name = name

/-- The group of a name, which has to be defined. -/
def requireGroup (grammar : Grammar) (name : Kind) : Except Error Group :=
  match grammar.group? name with
  | some group => .ok group
  | none => .error (.unknownGroup name)

/-- The block that a kind opens, the first one registered. -/
def openedBy? (grammar : Grammar) (kind : Kind) : Option Block :=
  grammar.blocks.find? fun block => block.opens = kind

/-- The kind closes some block. -/
def closesAny (grammar : Grammar) (kind : Kind) : Bool :=
  grammar.blocks.any fun block => block.closes = kind

end Grammar

end TokenTree
