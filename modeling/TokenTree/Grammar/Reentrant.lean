import TokenTree.Grammar.Dispatch
import TokenTree.Grammar.Matching

/-!
# Grammars whose reactions use the grammar

A reaction may look up a group, dispatch a tree or match a stream with the very grammar that it
belongs to. Such a grammar is given as a function of those calls. `Grammar.reentrant` ties the knot
for calls nested up to a bound; a call nested deeper is an error, so no call runs for ever.
-/

namespace TokenTree

/-- The calls that a reaction can make to its own grammar. -/
structure Calls where
  requireGroup : Kind → Except Error Group
  dispatch : Tree → Traced Error (List Node)
  matchBlocks : TokenStream → Traced Error Tree

namespace Calls

/-- The calls that a grammar answers. -/
def of (grammar : Unit → Grammar) : Calls where
  requireGroup name := (grammar ()).requireGroup name
  dispatch tree := (grammar ()).dispatch tree
  matchBlocks stream := (grammar ()).matchBlocks stream

/-- No call is answered. -/
def refused : Calls where
  requireGroup _ := .error .reentryTooDeep
  dispatch _ := .fail .reentryTooDeep
  matchBlocks _ := .fail .reentryTooDeep

end Calls

namespace Grammar

/-- The grammar that `define` gives when its reactions call it, at most `depth` calls inside one
another. -/
def reentrant (define : Calls → Grammar) : Nat → Grammar
  | 0 => define .refused
  | depth + 1 => define (.of fun _ => reentrant define depth)

end Grammar

end TokenTree
