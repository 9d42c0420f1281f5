import TokenTree.Error
import TokenTree.Pattern
import TokenTree.Text.Bytes

/-!
# Rules of a tokeniser

A rule is a pattern with a reaction that turns a match into tokens, and perhaps a name. A reaction
gives whole tokens, or values that become tokens named after the rule. A rule matches at a place of
the input when its pattern, looked for in the text from that place on, finds a text that is not
empty.
-/

namespace TokenTree

open Text (byteLength dropBytes?)

/-- A match of a rule: the matched text, the groups that capture, and the place of the scan. -/
structure RuleMatch where
  text : String
  captures : List (Option String)
  offset : Nat
deriving DecidableEq

namespace RuleMatch

/-- The text of a group; group 0 is the whole match. -/
def group? (found : RuleMatch) : Nat → Option String
  | 0 => some found.text
  | index + 1 => found.captures[index]?.join

/-- The number of bytes of the matched text. -/
def bytes (found : RuleMatch) : Nat := byteLength found.text.toList

end RuleMatch

/-- What a reaction gives: tokens, or values for tokens named after the rule. -/
inductive Emit where
  | nothing
  | token (token : Token)
  | tokens (tokens : List Token)
  | value (value : Value)
  | values (values : List Value)
deriving DecidableEq

/-- The tokens of what a reaction gave at a place. Values need a name, even where there are none. -/
def Emit.toTokens (name : Option Kind) (offset : Nat) : Emit → Except Error (List Token)
  | .nothing => .ok []
  | .token single => .ok [single]
  | .tokens several => .ok several
  | .value single =>
      match name with
      | some kind => .ok [.of kind single]
      | none => .error (.unnamedRuleValue offset)
  | .values several =>
      match name with
      | some kind => .ok (several.map (.of kind))
      | none => .error (.unnamedRuleValue offset)

/-- A pattern that a rule was given is none. The rule is known by its name or, without one, by the
text of the pattern. -/
structure InvalidPattern where
  rule : String
deriving DecidableEq

/-- The wording of the cause. -/
def InvalidPattern.message (cause : InvalidPattern) : String :=
  "invalid pattern for rule `" ++ cause.rule ++ "`"

/-- A pattern, the text it was made of, and the reaction to its matches. -/
structure Rule where
  name : Option Kind
  source : String
  pattern : Pattern
  reaction : RuleMatch → Emit

namespace Rule

/-- The text of a pattern that begins where the text begins. -/
def anchored (source : String) : List Char :=
  ['^', '(', '?', ':'] ++ source.toList ++ [')']

/-- A rule for the text of a pattern. -/
def compile [Pattern.Properties] (name : Option Kind) (source : String)
    (reaction : RuleMatch → Emit) :
    Except InvalidPattern Rule :=
  match Pattern.compile? (anchored source) with
  | some pattern => .ok ⟨name, source, pattern, reaction⟩
  | none => .error ⟨(name.map Kind.name).getD source⟩

/-- The match of a rule in the text from a place on. -/
def matchIn? (rule : Rule) (text : List Char) (offset : Nat) : Option RuleMatch :=
  match rule.pattern.search? text with
  | some found =>
      if found.matched.isEmpty then none
      else some ⟨String.ofList found.matched, found.groups.map (·.map String.ofList), offset⟩
  | none => none

/-- The match of a rule at a byte offset of the input, which has to be between two characters. -/
def matchAt (rule : Rule) (input : String) (offset : Nat) : Except Error (Option RuleMatch) :=
  match dropBytes? input.toList offset with
  | some text => .ok (rule.matchIn? text offset)
  | none => .error (.offBoundary offset)

end Rule

end TokenTree
