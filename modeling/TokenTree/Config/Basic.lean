import TokenTree.Grammar
import TokenTree.Tokeniser

/-!
# Configurations

A configuration describes a tokeniser and a grammar by data alone: rules with what they put into
their tokens, blocks, groups, and what applies to all of them. Rules and blocks are kept in order,
groups sorted by name.
-/

namespace TokenTree

/-- A type whose values are chosen by name. -/
class Choice (α : Type) where
  /-- All values, in the order in which they are offered. -/
  all : List α
  /-- The name of a value. -/
  word : α → String

/-- The value of a name. -/
def Choice.ofWord? {α : Type} [Choice α] (name : String) : Option α :=
  (Choice.all (α := α)).find? fun choice => Choice.word choice = name

instance : Choice Application where
  all := [.overlapping, .chained]
  word
    | .overlapping => "overlapping"
    | .chained => "chained"

namespace Config

/-- What becomes of a character at which no rule matches. -/
inductive UnmatchedPolicy where
  | skip
  /-- It becomes a token of the kind `char`. -/
  | char
deriving DecidableEq

instance : Choice UnmatchedPolicy where
  all := [.skip, .char]
  word
    | .skip => "skip"
    | .char => "char"

/-- What a rule makes of the text that it selects. -/
inductive ValueKind where
  | text
  /-- An integer, or the text if it is not the numeral of one. -/
  | int
  | symbol
  /-- A token without a value. -/
  | bare
deriving DecidableEq

instance : Choice ValueKind where
  all := [.text, .int, .symbol, .bare]
  word
    | .text => "text"
    | .int => "int"
    | .symbol => "symbol"
    | .bare => "bare"

/-- A rule. Without a group that it selects, it selects the whole match. -/
structure RuleEntry where
  name : String
  pattern : String
  discard : Bool := false
  capture : Option Nat := none
  value : ValueKind := .text
deriving DecidableEq

/-- A block, whose name tags its branches. -/
structure BlockEntry where
  opens : String
  closes : String
  name : Option String := none
deriving DecidableEq

/-- The names of groups with their members, sorted by name. -/
structure Groups where
  entries : List (String × List String)
  sorted : entries.Pairwise (fun left right => left.1 < right.1)
deriving DecidableEq

namespace Groups

/-- No groups. -/
def empty : Groups := ⟨[], .nil⟩

instance : EmptyCollection Groups := ⟨empty⟩

/-- Add a group to a sorted list, in place of the one of its name. -/
def insertInto (name : String) (members : List String) :
    List (String × List String) → List (String × List String)
  | [] => [(name, members)]
  | (other, others) :: rest =>
      if name < other then (name, members) :: (other, others) :: rest
      else if name = other then (name, members) :: rest
      else (other, others) :: insertInto name members rest

theorem mem_insertInto {name : String} {members : List String}
    {entries : List (String × List String)} {entry : String × List String}
    (h : entry ∈ insertInto name members entries) : entry = (name, members) ∨ entry ∈ entries := by
  fun_induction insertInto name members entries <;> grind

theorem sorted_insertInto {name : String} {members : List String}
    {entries : List (String × List String)}
    (h : entries.Pairwise (fun left right => left.1 < right.1)) :
    (insertInto name members entries).Pairwise (fun left right => left.1 < right.1) := by
  fun_induction insertInto name members entries with
  | case1 => simp
  | case2 other others rest hlt =>
      refine List.pairwise_cons.2 ⟨fun entry hentry => ?_, h⟩
      rcases List.mem_cons.1 hentry with rfl | hrest
      · exact hlt
      · exact String.lt_trans hlt ((List.pairwise_cons.1 h).1 entry hrest)
  | case3 others rest hlt =>
      exact List.pairwise_cons.2 ⟨(List.pairwise_cons.1 h).1, (List.pairwise_cons.1 h).2⟩
  | case4 other others rest hlt hne ih =>
      refine List.pairwise_cons.2 ⟨fun entry hentry => ?_, ih (List.pairwise_cons.1 h).2⟩
      rcases mem_insertInto hentry with rfl | hrest
      · exact Std.not_le.1 fun hle => hne (Std.le_antisymm hle (Std.not_lt.1 hlt))
      · exact (List.pairwise_cons.1 h).1 entry hrest

/-- Add a group, in place of the one of its name. -/
def insert (name : String) (members : List String) (groups : Groups) : Groups :=
  ⟨insertInto name members groups.entries, sorted_insertInto groups.sorted⟩

/-- The groups of a list. Of two with one name the first counts. -/
def ofList (entries : List (String × List String)) : Groups :=
  entries.foldr (fun (name, members) groups => groups.insert name members) empty

end Groups

end Config

/-- A description of a tokeniser and a grammar. -/
structure Config where
  application : Application := .overlapping
  unmatched : Config.UnmatchedPolicy := .skip
  maxDepth : Nat := Grammar.defaultMaxDepth
  rules : List Config.RuleEntry := []
  blocks : List Config.BlockEntry := []
  groups : Config.Groups := .empty
deriving DecidableEq

end TokenTree
