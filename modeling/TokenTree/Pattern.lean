import TokenTree.Pattern.Meaning
import TokenTree.Pattern.Reader
import TokenTree.Pattern.Search

/-!
# Patterns

A pattern is the text of a regular expression that has a program. `Pattern.compile?` gives nothing
for a text that is none, or whose program would be too large. `Pattern.search?` finds the first
match in a text; the place before the text's first character counts as the start of everything, so
nothing before it can have a part in the match.
-/

namespace TokenTree

/-- A regular expression that can be searched for. -/
structure Pattern where
  program : Pattern.Program

namespace Pattern

/-- The pattern of a text, if the text is one. -/
def compile? [Properties] (source : List Char) : Option Pattern := do
  let term ← Term.read? source
  let expr ← term.meaning?
  let program ← expr.program?
  return ⟨program⟩

/-- The first match in a text. -/
def search? (pattern : Pattern) (text : List Char) : Option (Found text) :=
  pattern.program.search? text

end Pattern

end TokenTree
