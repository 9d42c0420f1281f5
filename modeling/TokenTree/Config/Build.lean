import TokenTree.Config.Basic
import TokenTree.Text.Numeral

/-!
# What a configuration describes

The rules of a configuration become the rules of a tokeniser and its blocks and groups those of a
grammar, in order, with the same replacements as anywhere else. A rule selects a text of its match
and gives one token for it, or none where it is discarded or its group took no part.
-/

namespace TokenTree.Config

/-- The kind of the token that an unmatched character becomes. -/
def unmatchedChar : Kind := ⟨"char"⟩

namespace RuleEntry

/-- The text that a rule selects of a match. -/
def selected? (rule : RuleEntry) (found : RuleMatch) : Option String :=
  match rule.capture with
  | some index => found.group? index
  | none => some found.text

/-- What a rule makes of the text that it selected. -/
def emitText (rule : RuleEntry) (text : String) : Emit :=
  match rule.value with
  | .text => .value (.text text)
  | .int => .value (((Text.readInt? text.toList).map .int).getD (.text text))
  | .symbol => .value (.symbol ⟨text⟩)
  | .bare => .token (.bare ⟨rule.name⟩)

/-- The reaction of a rule to its matches. -/
def emit (rule : RuleEntry) (found : RuleMatch) : Emit :=
  match rule.selected? found with
  | some text => rule.emitText text
  | none => .nothing

/-- The step that adds a rule to a tokeniser. -/
def step (rule : RuleEntry) : Tokeniser.Step :=
  if rule.discard then .discard ⟨rule.name⟩ rule.pattern
  else .rule ⟨rule.name⟩ rule.pattern rule.emit

end RuleEntry

/-- The step that adds a block to a grammar. -/
def BlockEntry.step (block : BlockEntry) : Grammar.Step :=
  match block.name with
  | some name => .namedBlock ⟨name⟩ ⟨block.opens⟩ ⟨block.closes⟩
  | none => .block ⟨block.opens⟩ ⟨block.closes⟩

/-- The step that says what becomes of unmatched characters. -/
def UnmatchedPolicy.step : UnmatchedPolicy → Tokeniser.Step
  | .skip => .skipUnmatched
  | .char => .fallback unmatchedChar fun c => .value (.text (String.singleton c))

/-- The steps that define the tokeniser. -/
def tokeniserSteps (config : Config) : List Tokeniser.Step :=
  .application config.application :: config.rules.map RuleEntry.step ++ [config.unmatched.step]

/-- The steps that define the grammar. -/
def grammarSteps (config : Config) : List Grammar.Step :=
  .maxDepth config.maxDepth :: config.blocks.map BlockEntry.step ++
    config.groups.entries.map fun (name, members) => .group ⟨name⟩ (members.map Kind.mk)

/-- A configuration has a rule whose pattern is none. -/
structure InvalidGrammar where
  cause : InvalidPattern
deriving DecidableEq

/-- The wording of the cause. -/
def InvalidGrammar.message (failure : InvalidGrammar) : String :=
  "Invalid grammar: " ++ failure.cause.message

/-- The tokeniser that a configuration describes. -/
def tokeniser (config : Config) : Except InvalidGrammar Tokeniser :=
  (Tokeniser.ofSteps config.tokeniserSteps).mapError .mk

/-- The grammar that a configuration describes. -/
def grammar (config : Config) : Grammar := .ofSteps config.grammarSteps

/-- The tokeniser and the grammar that a configuration describes. -/
def build (config : Config) : Traced InvalidGrammar (Tokeniser × Grammar) := do
  let tokeniser ← .ofExcept config.tokeniser
  let grammar := config.grammar
  .note .debug ("built tokeniser with " ++ toString tokeniser.rules.length ++
    " rules and grammar with " ++ toString grammar.blocks.length ++ " blocks")
  return (tokeniser, grammar)

end TokenTree.Config
