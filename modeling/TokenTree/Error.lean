import TokenTree.Token

/-!
# Causes of failure

What can go wrong while a text is tokenised, blocks are matched or reactions run. Nothing here is
recovered from: the first cause met is the outcome. `Error.message` is the only place that words
a cause.
-/

namespace TokenTree

/-- Why a stage failed. Positions count tokens or nodes, offsets count bytes of the input. -/
inductive Error where
  /-- An item of one kind was expected and another item, or none, was found. -/
  | typeMismatch (expected : Kind) (found : Option Kind) (position : Nat)
  /-- Any item was expected and none was left. -/
  | unexpectedEnd (position : Nat)
  /-- A close stands where the innermost open block, if any, waits for another one. -/
  | unbalancedDelimiter (found : Kind) (expected : Option Kind) (position : Nat)
  /-- The tokens ended inside a block, which was opened at the position. -/
  | unterminatedBlock (opens closes : Kind) (position : Nat)
  /-- An open would have made more blocks open at once than allowed. -/
  | nestingTooDeep (limit position : Nat)
  /-- A rule without a name produced a value, which needs a name to become a token. -/
  | unnamedRuleValue (offset : Nat)
  /-- A reaction asked for a group that is not defined. -/
  | unknownGroup (name : Kind)
  /-- A scan position is past the end of the input or inside a character. -/
  | offBoundary (offset : Nat)
  /-- Reactions called their own grammar inside one another too often. -/
  | reentryTooDeep
deriving DecidableEq

namespace Error

/-- What was found in place of an expected item. -/
def describe : Option Kind → String
  | some kind => "`" ++ kind.name ++ "`"
  | none => "end of tokens"

/-- What is wrong with a close that does not fit. -/
def unbalanced : Option Kind → String
  | some kind => "where `" ++ kind.name ++ "` was expected"
  | none => "has no matching open"

/-- The wording of a cause. -/
def message : Error → String
  | .typeMismatch expected found position =>
      "wrong type: expected `" ++ expected.name ++ "` but found " ++ describe found ++
        " at position " ++ toString position
  | .unexpectedEnd position => "unexpected end of tokens at position " ++ toString position
  | .unbalancedDelimiter found expected position =>
      "close `" ++ found.name ++ "` at position " ++ toString position ++ " " ++
        unbalanced expected
  | .unterminatedBlock opens closes position =>
      "block opened by `" ++ opens.name ++ "` at position " ++ toString position ++
        " is never closed by `" ++ closes.name ++ "`"
  | .nestingTooDeep limit position =>
      "blocks nested deeper than " ++ toString limit ++ " levels at position " ++
        toString position
  | .unnamedRuleValue offset =>
      "anonymous rule produced a bare value at byte offset " ++ toString offset
  | .unknownGroup name => "no group named `" ++ name.name ++ "` in the grammar"
  | .offBoundary offset => "byte offset " ++ toString offset ++ " is not between two characters"
  | .reentryTooDeep => "reactions call their grammar too deep inside one another"

instance : ToString Error := ⟨message⟩

end Error

end TokenTree
