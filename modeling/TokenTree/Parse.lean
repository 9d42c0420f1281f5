import TokenTree.Grammar.Dispatch
import TokenTree.Grammar.Matching
import TokenTree.Tokeniser

/-!
# From text to trees

The stages one after the other: a tokeniser makes a stream of a text, a grammar matches the blocks
of the stream and then runs its token reactions over the result.
-/

namespace TokenTree

/-- Match the blocks of a stream, then run the token reactions over the result. -/
def Grammar.trees (grammar : Grammar) (stream : TokenStream) : Traced Error (List Node) := do
  grammar.dispatch (← grammar.matchBlocks stream)

/-- The trees of a text. -/
def parse (tokeniser : Tokeniser) (grammar : Grammar) (input : String) :
    Traced Error (List Node) := do
  grammar.trees (← tokeniser.tokenise input)

end TokenTree
