import TokenTree.Cursor
import TokenTree.Journal
import TokenTree.Tokeniser.Rule

/-!
# Tokenisers

A tokeniser goes through a text with a list of rules. At every place all rules have their turn and
every match gives tokens: either all of them at the same place, after which the scan moves past the
longest match, or each where the one before it stopped. A character at which no rule matches is
skipped or handed to a fallback. A match is never empty, so the scan always moves on.

A tokeniser starts as `Tokeniser.empty` and grows by steps. A rule with a name replaces the one of
that name and comes last.
-/

namespace TokenTree

open Text (byteLength dropBytes? length_lt_of_dropBytes?)

/-- What becomes of a character at which no rule matches. -/
inductive Unmatched where
  | skip
  /-- The handler's values become tokens of the given kind. -/
  | emit (name : Kind) (handler : Char → Emit)

/-- How the rules share a place. -/
inductive Application where
  /-- All rules are tried at the same place. -/
  | overlapping
  /-- Each rule is tried where the one before it stopped. -/
  | chained
deriving DecidableEq

/-- Rules in order, with what applies to all of them. -/
structure Tokeniser where
  rules : List Rule
  unmatched : Unmatched
  application : Application

namespace Tokeniser

/-! ## Definition -/

/-- The tokeniser without rules, which skips every character. -/
def empty : Tokeniser := ⟨[], .skip, .overlapping⟩

/-- One step of the definition of a tokeniser. -/
inductive Step where
  | rule (name : Kind) (source : String) (reaction : RuleMatch → Emit)
  /-- A rule without a name, whose reaction has to give tokens. -/
  | anonymousRule (source : String) (reaction : RuleMatch → Emit)
  /-- A rule that gives the matched text. -/
  | token (name : Kind) (source : String)
  /-- A rule that gives nothing. -/
  | discard (name : Kind) (source : String)
  | fallback (name : Kind) (handler : Char → Emit)
  | skipUnmatched
  | application (application : Application)

/-- The rule that a step adds, if it adds one: its name, its pattern and its reaction. -/
def Step.rule? : Step → Option (Option Kind × String × (RuleMatch → Emit))
  | .rule name source reaction => some (some name, source, reaction)
  | .anonymousRule source reaction => some (none, source, reaction)
  | .token name source => some (some name, source, fun found => .value (.text found.text))
  | .discard name source => some (some name, source, fun _ => .nothing)
  | _ => none

/-- Add a rule last, in place of the one of its name. -/
def addRule (tokeniser : Tokeniser) (name : Option Kind) (source : String)
    (reaction : RuleMatch → Emit) : Except InvalidPattern Tokeniser := do
  let rule ← Rule.compile name source reaction
  let kept := tokeniser.rules.filter fun old => old.name.isNone || old.name != name
  return { tokeniser with rules := kept ++ [rule] }

/-- Take one step. -/
def apply (tokeniser : Tokeniser) (step : Step) : Except InvalidPattern Tokeniser :=
  match step with
  | .fallback name handler => .ok { tokeniser with unmatched := .emit name handler }
  | .skipUnmatched => .ok { tokeniser with unmatched := .skip }
  | .application application => .ok { tokeniser with application := application }
  | _ =>
      match step.rule? with
      | some (name, source, reaction) => tokeniser.addRule name source reaction
      | none => .ok tokeniser

/-- The tokeniser that the steps define, unless one of them has an invalid pattern. -/
def ofSteps (steps : List Step) : Except InvalidPattern Tokeniser := steps.foldlM apply empty

/-! ## Scanning -/

/-- The journal's line for a match. -/
def noteMatch (rule : Rule) (found : RuleMatch) : Traced Error Unit :=
  let name := match rule.name with
    | some kind => "Some(:" ++ kind.name ++ ")"
    | none => "None"
  .note .trace ("rule " ++ name ++ " matched " ++ Text.quoted found.text ++ " at " ++
    toString found.offset)

/-- The tokens of a rule's match. -/
def emitMatch (rule : Rule) (found : RuleMatch) : Traced Error (List Token) := do
  noteMatch rule found
  .ofExcept ((rule.reaction found).toTokens rule.name found.offset)

/-- Try every rule on the same text: the tokens of all matches, and the bytes of the longest one, 0
when no rule matches. -/
def overlap (text : List Char) (offset : Nat) : List Rule → Traced Error (List Token × Nat)
  | [] => pure ([], 0)
  | rule :: rules =>
      match rule.matchIn? text offset with
      | none => overlap text offset rules
      | some found => do
          let tokens ← emitMatch rule found
          let (more, longest) ← overlap text offset rules
          pure (tokens ++ more, max found.bytes longest)

/-- Try every rule where the last match before it stopped, as long as there is text: the tokens of
all matches, and the bytes of all matches together. -/
def chain : List Rule → List Char → Nat → Traced Error (List Token × Nat)
  | [], _, _ => pure ([], 0)
  | rule :: rules, text, offset =>
      if text.isEmpty then pure ([], 0)
      else
        match rule.matchIn? text offset with
        | none => chain rules text offset
        | some found => do
            let tokens ← emitMatch rule found
            match dropBytes? text found.bytes with
            | none => .fail (.offBoundary (offset + found.bytes))
            | some rest => do
                let (more, bytes) ← chain rules rest (offset + found.bytes)
                pure (tokens ++ more, found.bytes + bytes)

/-- Give every rule its turn at a place: the tokens, and the bytes to move on by, 0 when no rule
matches. -/
def pass (tokeniser : Tokeniser) (text : List Char) (offset : Nat) :
    Traced Error (List Token × Nat) :=
  match tokeniser.application with
  | .overlapping => overlap text offset tokeniser.rules
  | .chained => chain tokeniser.rules text offset

/-- The tokens of a character at which no rule matches. -/
def passOver (tokeniser : Tokeniser) (c : Char) (offset : Nat) : Traced Error (List Token) :=
  match tokeniser.unmatched with
  | .skip => do
      .note .trace ("skipping unmatched " ++ Text.quotedChar c ++ " at " ++ toString offset)
      pure []
  | .emit name handler => .ofExcept ((handler c).toTokens (some name) offset)

/-- The tokens of the text from a place on. -/
def scanFrom (tokeniser : Tokeniser) (text : List Char) (offset : Nat) :
    Traced Error (List Token) :=
  match text with
  | [] => pure []
  | c :: rest => do
      let (tokens, bytes) ← tokeniser.pass (c :: rest) offset
      if _hbytes : bytes = 0 then
        let tokens ← tokeniser.passOver c offset
        let more ← tokeniser.scanFrom rest (offset + c.utf8Size)
        pure (tokens ++ more)
      else
        match _hdrop : dropBytes? (c :: rest) bytes with
        | none => .fail (.offBoundary (offset + bytes))
        | some after =>
            let more ← tokeniser.scanFrom after (offset + bytes)
            pure (tokens ++ more)
termination_by text.length
decreasing_by
  · simp
  · exact length_lt_of_dropBytes? _hdrop _hbytes

/-- The tokens of a text. -/
def tokenise (tokeniser : Tokeniser) (input : String) : Traced Error TokenStream := do
  let tokens ← tokeniser.scanFrom input.toList 0
  .note .debug ("tokenised " ++ toString (byteLength input.toList) ++ " bytes into " ++
    toString tokens.length ++ " tokens with " ++ toString tokeniser.rules.length ++ " rules")
  pure (.ofList tokens)

end Tokeniser

end TokenTree
