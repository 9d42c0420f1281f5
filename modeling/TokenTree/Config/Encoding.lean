import TokenTree.Config.Basic
import TokenTree.Toml.Writer

/-!
# Configurations as documents

A configuration is written with all that it holds, except for what says the same by its absence: a
rule that is not discarded, a rule without a selected group, a block without a name. An empty list
of rules or blocks is an entry, any other a table for each item.
-/

namespace TokenTree.Config

open Toml (Field Line)

/-- An entry with a key of its own. -/
def entryLine (key : String) (field : Field) : Line Field := .entry [key] field

/-- The entry of a list that has no items. -/
def emptyLine {α : Type} (key : String) (items : List α) : List (Line Field) :=
  if items.isEmpty then [entryLine key (.strings [])] else []

/-- The lines of a rule. -/
def RuleEntry.lines (rule : RuleEntry) : List (Line Field) :=
  [.element ["rules"], entryLine "name" (.string rule.name),
    entryLine "pattern" (.string rule.pattern)] ++
  (if rule.discard then [entryLine "discard" (.boolean true)] else []) ++
  (rule.capture.map fun index => entryLine "capture" (.number index)).toList ++
  [entryLine "value" (.string (Choice.word rule.value))]

/-- The lines of a block. -/
def BlockEntry.lines (block : BlockEntry) : List (Line Field) :=
  [.element ["blocks"], entryLine "open" (.string block.opens),
    entryLine "close" (.string block.closes)] ++
  (block.name.map fun name => entryLine "name" (.string name)).toList

/-- The lines of groups. -/
def Groups.lines (groups : Groups) : List (Line Field) :=
  .table ["groups"] :: groups.entries.map fun (name, members) => entryLine name (.strings members)


/-- The lines of a configuration. -/
def lines (config : Config) : List (Line Field) :=
  [entryLine "application" (.string (Choice.word config.application)),
    entryLine "unmatched" (.string (Choice.word config.unmatched)),
    entryLine "max_depth" (.number config.maxDepth)] ++
  emptyLine "rules" config.rules ++ emptyLine "blocks" config.blocks ++
  config.rules.flatMap RuleEntry.lines ++ config.blocks.flatMap BlockEntry.lines ++
  config.groups.lines

/-- The text of a configuration. -/
def write (config : Config) : String := Toml.write config.lines

end TokenTree.Config
