import TokenTree.Grammar

/-!
# Matching of blocks

One pass over a token stream folds every block into a node. Each token in turn

1. closes the innermost open block, whose reaction then makes a node of the body, or
2. closes some other block, which is an error, or
3. opens a block, unless too many are open, or
4. becomes a leaf of the body at hand.

A kind that closes some block never opens one. The open blocks wait on a stack with the bodies
around them; tokens that end while it is not empty are an error.
-/

namespace TokenTree

/-- An open block: where it was opened, and the body around it so far. -/
structure Frame where
  block : Block
  openedAt : Nat
  outer : List Node

namespace Grammar

/-- What a token does that does not close the innermost open block. -/
inductive Role where
  | stray
  | opening (block : Block)
  | plain

/-- The role of a kind. Closing comes before opening. -/
def roleOf (grammar : Grammar) (kind : Kind) : Role :=
  if grammar.closesAny kind then .stray
  else
    match grammar.openedBy? kind with
    | some block => .opening block
    | none => .plain

/-- The journal's line for a block that is opened. -/
def noteOpened (block : Block) (position : Nat) : Traced Error Unit :=
  .note .trace ("opened `" ++ block.opens.name ++ "` at " ++ toString position)

/-- The journal's line for a block that is closed. -/
def noteClosed (block : Block) (position count : Nat) : Traced Error Unit :=
  .note .trace ("closed `" ++ block.opens.name ++ "` at " ++ toString position ++ " with " ++
    toString count ++ " items")

/-- Match the tokens from a position on, given the open blocks, innermost first, and the body of the
innermost one so far. -/
def matchFrom (grammar : Grammar) :
    List Token → Nat → List Frame → List Node → Traced Error (List Node)
  | [], _, [], body => pure body
  | [], _, frame :: _, _ =>
      .fail (.unterminatedBlock frame.block.opens frame.block.closes frame.openedAt)
  | token :: rest, position, frames, body =>
      let step : Traced Error (List Node) :=
        match grammar.roleOf token.kind with
        | .stray =>
            .fail (.unbalancedDelimiter token.kind (frames.head?.map (·.block.closes)) position)
        | .opening block =>
            if grammar.maxDepth ≤ frames.length then
              .fail (.nestingTooDeep grammar.maxDepth position)
            else do
              noteOpened block position
              matchFrom grammar rest (position + 1) (⟨block, position, body⟩ :: frames) []
        | .plain => matchFrom grammar rest (position + 1) frames (body ++ [.leaf token])
      match frames with
      | [] => step
      | frame :: enclosing =>
          if frame.block.closes = token.kind then do
            noteClosed frame.block position body.length
            let node ← frame.block.reaction (.ofList body)
            matchFrom grammar rest (position + 1) enclosing (frame.outer ++ [node])
          else step

/-- Match the blocks of a stream from its position to its end. -/
def matchBlocks (grammar : Grammar) (stream : TokenStream) : Traced Error Tree := do
  let body ← grammar.matchFrom stream.rest stream.pos [] []
  .note .debug ("matched " ++ toString stream.length ++ " tokens into " ++
    toString body.length ++ " top-level nodes")
  pure (.ofList body)

end Grammar

end TokenTree
