import TokenTree.Config.Decoding
import TokenTree.Config.Encoding
import TokenTree.Proofs.Toml.Lines
import TokenTree.Proofs.Toml.Sections

/-!
# Configurations read back

A configuration is written as the fields of its rules, blocks and groups under their headers, with
some left out. Every field is found again under its key, and what is left out is what its absence
says, so a configuration is read back from its text whatever its strings hold: see `read_write`. Its
numbers may take all of 64 bits without a sign.
-/

namespace TokenTree.Config

open Toml (Field Line)
open Toml.Document (entryLines elementLines)
open Toml.Entries (DistinctKeys ofFields)

/-! ## Fields -/

/-- The fields of a rule. -/
def RuleEntry.fields (rule : RuleEntry) : List (String × Field) :=
  [("name", .string rule.name), ("pattern", .string rule.pattern)] ++
  (if rule.discard then [("discard", .boolean true)] else []) ++
  (rule.capture.map fun index => ("capture", .number index)).toList ++
  [("value", .string (Choice.word rule.value))]

/-- The fields of a block. -/
def BlockEntry.fields (block : BlockEntry) : List (String × Field) :=
  [("open", .string block.opens), ("close", .string block.closes)] ++
  (block.name.map fun name => ("name", .string name)).toList

/-- The fields of groups. -/
def Groups.fields (groups : Groups) : List (String × Field) :=
  groups.entries.map fun (name, members) => (name, .strings members)

/-- The field of a list that has no items. -/
def emptyField {α : Type} (key : String) (items : List α) : List (String × Field) :=
  if items.isEmpty then [(key, .strings [])] else []

/-- The fields before all headers. -/
def fields (config : Config) : List (String × Field) :=
  [("application", .string (Choice.word config.application)),
    ("unmatched", .string (Choice.word config.unmatched)),
    ("max_depth", .number config.maxDepth)] ++
  emptyField "rules" config.rules ++ emptyField "blocks" config.blocks

/-- The lines of a rule are its header and its fields. -/
theorem RuleEntry.lines_eq (rule : RuleEntry) :
    rule.lines = .element ["rules"] :: entryLines rule.fields := by
  obtain ⟨name, pattern, discard, capture, value⟩ := rule
  cases discard <;> cases capture <;> rfl

/-- The lines of a block are its header and its fields. -/
theorem BlockEntry.lines_eq (block : BlockEntry) :
    block.lines = .element ["blocks"] :: entryLines block.fields := by
  obtain ⟨opens, closes, name⟩ := block
  cases name <;> rfl

/-- The lines of a configuration are its fields, then the sections of the rules, the blocks and the
groups. -/
theorem lines_eq (config : Config) :
    config.lines = entryLines config.fields ++
      (elementLines "rules" (config.rules.map RuleEntry.fields) ++
        (elementLines "blocks" (config.blocks.map BlockEntry.fields) ++
          .table ["groups"] :: entryLines config.groups.fields)) := by
  have hrules : config.rules.flatMap RuleEntry.lines =
      elementLines "rules" (config.rules.map RuleEntry.fields) := by
    rw [elementLines, List.flatMap_map, funext RuleEntry.lines_eq]
  have hblocks : config.blocks.flatMap BlockEntry.lines =
      elementLines "blocks" (config.blocks.map BlockEntry.fields) := by
    rw [elementLines, List.flatMap_map, funext BlockEntry.lines_eq]
  have hgroups : config.groups.lines = .table ["groups"] :: entryLines config.groups.fields := by
    simp [Groups.lines, entryLine, entryLines, Groups.fields]
  rw [lines, hrules, hblocks, hgroups]
  cases hr : config.rules.isEmpty <;> cases hb : config.blocks.isEmpty <;>
    simp [fields, emptyField, emptyLine, entryLine, entryLines, hr, hb]

/-! ## Values -/

/-- The values that fields stand for. -/
def values (fields : List (String × Field)) : List (String × Toml.Value) :=
  fields.map fun field => (field.1, field.2.value)

/-- The value of a field is found under its key. -/
theorem lookup_values (key : String) (fields : List (String × Field)) :
    (values fields).lookup key = (fields.lookup key).map Field.value := by
  induction fields with
  | nil => rfl
  | cons field fields ih =>
      obtain ⟨name, field⟩ := field
      rw [values, List.map_cons, List.lookup_cons, List.lookup_cons, ← values, ih]
      cases key == name <;> rfl

/-- Values have the keys of their fields. -/
theorem distinctKeys_values {fields : List (String × Field)} (hkeys : DistinctKeys fields) :
    DistinctKeys (values fields) := List.pairwise_map.2 hkeys

/-- A line for each field is one for each value. -/
theorem map_value_entryLines (fields : List (String × Field)) :
    (entryLines fields).map (Line.map Field.value) = entryLines (values fields) := by
  simp [entryLines, values, Line.map]

/-- Sections of fields are sections of values. -/
theorem map_value_elementLines (name : String) (bodies : List (List (String × Field))) :
    (elementLines name bodies).map (Line.map Field.value) =
      elementLines name (bodies.map values) := by
  simp [elementLines, List.map_flatMap, List.flatMap_map, map_value_entryLines, Line.map]

/-- No field of a rule is given twice. -/
theorem RuleEntry.distinctKeys (rule : RuleEntry) : DistinctKeys rule.fields := by
  obtain ⟨name, pattern, discard, capture, value⟩ := rule
  cases discard <;> cases capture <;> simp [DistinctKeys, fields]

/-- No field of a block is given twice. -/
theorem BlockEntry.distinctKeys (block : BlockEntry) : DistinctKeys block.fields := by
  obtain ⟨opens, closes, name⟩ := block
  cases name <;> simp [DistinctKeys, fields]

/-- The names of groups go up. -/
theorem Groups.sorted_values (groups : Groups) :
    (values groups.fields).Pairwise fun left right => left.1 < right.1 := by
  rw [values, Groups.fields, List.map_map]
  exact List.pairwise_map.2 groups.sorted

/-- No group is given twice. -/
theorem Groups.distinctKeys_values (groups : Groups) : DistinctKeys (values groups.fields) := by
  refine groups.sorted_values.imp ?_
  intro left right hlt heq
  rw [heq] at hlt
  exact String.lt_irrefl _ hlt

/-- No field before the headers is given twice. -/
theorem distinctKeys (config : Config) : DistinctKeys config.fields := by
  cases hr : config.rules.isEmpty <;> cases hb : config.blocks.isEmpty <;>
    simp [DistinctKeys, fields, emptyField, hr, hb]

/-- The table of some fields. -/
def tableOf (fields : List (String × Field)) : Toml.Value :=
  .table (Toml.closeEntries (ofFields (values fields)))

/-! ## The document -/

/-- What the document of a configuration has under each key. -/
def document (config : Config) : List (String × Toml.Value) :=
  [("application", .string (Choice.word config.application)),
    ("blocks", .array ((config.blocks.map BlockEntry.fields).map tableOf)),
    ("groups", tableOf config.groups.fields), ("max_depth", .integer config.maxDepth),
    ("rules", .array ((config.rules.map RuleEntry.fields).map tableOf)),
    ("unmatched", .string (Choice.word config.unmatched))]

/-- A lookup compares keys one after the other. -/
theorem lookup_cons {α : Type} (key name : String) (value : α) (rest : List (String × α)) :
    List.lookup key ((name, value) :: rest) =
      if key = name then some value else List.lookup key rest := by
  grind

/-- What is found before the headers. -/
theorem lookup_fields (config : Config) (key : String) :
    config.fields.lookup key =
      if key = "application" then some (.string (Choice.word config.application))
      else if key = "unmatched" then some (.string (Choice.word config.unmatched))
      else if key = "max_depth" then some (.number config.maxDepth)
      else if key = "rules" ∧ config.rules = [] then some (.strings [])
      else if key = "blocks" ∧ config.blocks = [] then some (.strings [])
      else none := by
  cases hrules : config.rules <;> cases hblocks : config.blocks <;>
    simp [fields, emptyField, hrules, hblocks, lookup_cons]

/-- The document has the sections under their names, and beside them what stands before the
headers. -/
theorem lookup_document (config : Config) (key : String) :
    config.document.lookup key =
      if key = "groups" then some (tableOf config.groups.fields)
      else if key = "blocks" ∧ config.blocks ≠ [] then
        some (.array ((config.blocks.map BlockEntry.fields).map tableOf))
      else if key = "rules" ∧ config.rules ≠ [] then
        some (.array ((config.rules.map RuleEntry.fields).map tableOf))
      else (config.fields.lookup key).map Field.value := by
  rw [lookup_fields]
  simp only [document, lookup_cons, List.lookup_nil]
  by_cases hrules : config.rules = [] <;> by_cases hblocks : config.blocks = [] <;>
    simp only [hrules, hblocks] <;> grind [Field.value]

/-- The tables of an array. -/
theorem closeTables_ofFields (bodies : List (List (String × Field))) :
    Toml.closeTables ((bodies.map values).map ofFields) = bodies.map tableOf := by
  rw [Toml.closeTables_eq, List.map_map, List.map_map]
  rfl

/-- The lines of a configuration mean its document. -/
theorem meaning?_lines (config : Config) :
    ∃ entries, Toml.Document.meaning? (config.lines.map (Line.map Field.value)) = some entries ∧
      ∀ key, entries.lookup key = config.document.lookup key := by
  -- Section by section, each of which leaves alone what the ones before it have made.
  obtain ⟨root, hroot, hrootItems⟩ :=
    Toml.Document.exists_root (distinctKeys_values config.distinctKeys)
  obtain ⟨withRules, hrules, hrulesItems⟩ := hrootItems.exists_elements "rules"
    ((config.rules.map RuleEntry.fields).map values)
    (fun hrules => by simpa [lookup_values, lookup_fields] using hrules)
    (by simpa using fun rule _ => distinctKeys_values rule.distinctKeys)
  obtain ⟨withBlocks, hblocks, hblocksItems⟩ := hrulesItems.exists_elements "blocks"
    ((config.blocks.map BlockEntry.fields).map values)
    (fun hblocks => by simpa [lookup_values, lookup_fields] using hblocks)
    (by simpa using fun block _ => distinctKeys_values block.distinctKeys)
  obtain ⟨whole, hgroups, hitems⟩ := hblocksItems.exists_table "groups"
    (by simp [lookup_values, lookup_fields])
    config.groups.distinctKeys_values
  refine ⟨Toml.closeEntries whole.entries, ?_, fun key => ?_⟩
  · rw [lines_eq]
    simp only [List.map_append, List.map_cons, map_value_entryLines, map_value_elementLines]
    simp only [Toml.Document.meaning?, List.foldlM_append, Option.bind_eq_bind, hroot,
      Option.bind_some, hrules, hblocks]
    show Option.bind (List.foldlM _ withBlocks (Line.table ["groups"] :: _)) _ = _
    rw [hgroups]
    rfl
  · rw [hitems.lookup_close, lookup_values]
    simp only [ne_eq, List.map_eq_nil_iff, apply_ite (Option.map Toml.Item.close), Option.map_some,
      Toml.Item.close, closeTables_ofFields, Option.map_map, lookup_document]
    rfl

/-! ## Decoding -/

namespace Decoder

variable {α : Type} {decode : Decoder α}

/-- A choice is found by its name. -/
theorem choice_word [Choice α] {choice : α}
    (hword : Choice.ofWord? (Choice.word choice) = some choice) :
    Decoder.choice (.string (Choice.word choice)) = .ok choice := by
  rw [Decoder.choice, named, hword]

/-- A number of 64 bits is read as it stands. -/
theorem number_integer {size : Nat} (hsize : size ≤ Text.maxSize) :
    Decoder.number (.integer size) = .ok size := by
  have hnegative : ¬ (size : Int) < 0 := Int.not_lt.2 (Int.natCast_nonneg size)
  have hlarge : (size : Int) ≤ Text.maxSize := Int.ofNat_le.2 hsize
  rw [Decoder.number, if_neg hnegative, if_pos hlarge, Int.toNat_natCast]

/-- The items of a list are decoded one by one. -/
theorem list_map {encode : α → Toml.Value} {items : List α}
    (hdecode : ∀ item ∈ items, decode (encode item) = .ok item) :
    Decoder.list decode (.array (items.map encode)) = .ok items := by
  show (items.map encode).mapM decode = .ok items
  induction items with
  | nil => rfl
  | cons item items ih =>
      obtain ⟨hitem, hitems⟩ := List.forall_mem_cons.1 hdecode
      rw [List.map_cons, List.mapM_cons, hitem, ih hitems]
      rfl

end Decoder

/-- The table of some fields has their values. -/
theorem lookup_tableOf {fields : List (String × Field)} (hkeys : DistinctKeys fields)
    (key : String) :
    List.lookup key (Toml.closeEntries (ofFields (values fields))) =
      (fields.lookup key).map Field.value := by
  rw [Toml.lookup_closeEntries_ofFields (distinctKeys_values hkeys), lookup_values]

/-- The numbers of a configuration take no more than 64 bits. -/
structure Fits (config : Config) : Prop where
  maxDepth : config.maxDepth ≤ Text.maxSize
  capture : ∀ rule ∈ config.rules, ∀ index ∈ rule.capture, index ≤ Text.maxSize

/-- A rule is read back. -/
theorem RuleEntry.rule_tableOf {rule : RuleEntry}
    (hcapture : ∀ index ∈ rule.capture, index ≤ Text.maxSize) :
    Decoder.rule (tableOf rule.fields) = .ok rule := by
  have hlookup := lookup_tableOf rule.distinctKeys
  obtain ⟨name, pattern, discard, capture, value⟩ := rule
  have hvalue : Decoder.choice (.string (Choice.word value)) = .ok value :=
    Decoder.choice_word (by cases value <;> rfl)
  rw [tableOf, Decoder.rule]
  simp only [Decoder.atKey?, hlookup]
  cases capture with
  | none =>
      cases discard <;>
        simp [fields, List.lookup_cons, Field.value, Decoder.string, Decoder.boolean,
          Decoder.present, hvalue]
  | some index =>
      have hindex := Decoder.number_integer (hcapture index rfl)
      cases discard <;>
        simp [fields, List.lookup_cons, Field.value, Decoder.string, Decoder.boolean,
          Decoder.present, hvalue, hindex]

/-- A block is read back. -/
theorem BlockEntry.block_tableOf (block : BlockEntry) :
    Decoder.block (tableOf block.fields) = .ok block := by
  have hlookup := lookup_tableOf block.distinctKeys
  obtain ⟨opens, closes, name⟩ := block
  rw [tableOf, Decoder.block]
  simp only [Decoder.atKey?, hlookup]
  cases name <;>
    simp [fields, List.lookup_cons, Field.value, Decoder.string, Decoder.present]

/-- A group whose name comes before all others is put first. -/
theorem Groups.insertInto_of_forall_lt {name : String} {members : List String}
    {entries : List (String × List String)} (hlt : ∀ entry ∈ entries, name < entry.1) :
    insertInto name members entries = (name, members) :: entries := by
  cases entries with
  | nil => rfl
  | cons entry entries => rw [insertInto, if_pos (hlt entry List.mem_cons_self)]

/-- Groups in order are put together again. -/
theorem Groups.ofList_entries (groups : Groups) : Groups.ofList groups.entries = groups := by
  obtain ⟨entries, hsorted⟩ := groups
  induction entries with
  | nil => rfl
  | cons entry entries ih =>
      obtain ⟨hfirst, hothers⟩ := List.pairwise_cons.1 hsorted
      show Groups.insert entry.1 entry.2 (Groups.ofList entries) = _
      rw [ih hothers]
      exact Groups.mk.injEq .. ▸ insertInto_of_forall_lt hfirst

/-- The members of a group are read back. -/
theorem Groups.mapM_group (entries : List (String × List String)) :
    (entries.map fun (name, members) => (name, (Field.strings members).value)).mapM Decoder.group =
      .ok entries := by
  induction entries with
  | nil => rfl
  | cons entry entries ih =>
      obtain ⟨name, members⟩ := entry
      have hmembers : Decoder.list Decoder.string (Field.strings members).value = .ok members :=
        Decoder.list_map fun _ _ => rfl
      rw [List.map_cons, List.mapM_cons, ih, Decoder.group, hmembers]
      rfl

/-- Groups are read back. -/
theorem Groups.groups_tableOf (groups : Groups) :
    Decoder.groups (tableOf groups.fields) = .ok groups := by
  have hentries : Toml.closeEntries (ofFields (values groups.fields)) = values groups.fields :=
    Toml.closeEntries_ofFields groups.sorted_values
  have hvalues : values groups.fields =
      groups.entries.map fun (name, members) => (name, (Field.strings members).value) := by
    rw [values, Groups.fields, List.map_map]
    rfl
  rw [tableOf, hentries, Decoder.groups, hvalues, Groups.mapM_group]
  exact congrArg Except.ok groups.ofList_entries

/-- The document of a configuration is decoded to it. -/
theorem ofEntries_of_lookup {config : Config} (hfits : config.Fits)
    {entries : List (String × Toml.Value)}
    (hlookup : ∀ key, entries.lookup key = config.document.lookup key) :
    ofEntries entries = .ok config := by
  have happlication : Decoder.choice (.string (Choice.word config.application)) =
      .ok config.application := Decoder.choice_word (by cases config.application <;> rfl)
  have hunmatched : Decoder.choice (.string (Choice.word config.unmatched)) =
      .ok config.unmatched := Decoder.choice_word (by cases config.unmatched <;> rfl)
  have hrules : Decoder.list Decoder.rule
      (.array ((config.rules.map RuleEntry.fields).map tableOf)) = .ok config.rules := by
    rw [List.map_map]
    exact Decoder.list_map fun rule hrule => RuleEntry.rule_tableOf (hfits.capture rule hrule)
  have hblocks : Decoder.list Decoder.block
      (.array ((config.blocks.map BlockEntry.fields).map tableOf)) = .ok config.blocks := by
    rw [List.map_map]
    exact Decoder.list_map fun block _ => block.block_tableOf
  have hgroups := config.groups.groups_tableOf
  have hdepth : Decoder.number (.integer config.maxDepth) = .ok config.maxDepth :=
    Decoder.number_integer hfits.maxDepth
  simp only [ofEntries, Decoder.atKey?, hlookup]
  simp [-List.map_map, document, List.lookup_cons, happlication, hunmatched, hrules, hblocks,
    hgroups, hdepth]

/-! ## Texts -/

section Lines

variable {property : Line Field → Prop}

/-- A property of an entry for each field. -/
theorem forall_mem_entryLines {fields : List (String × Field)} :
    (∀ line ∈ entryLines fields, property line) ↔
      ∀ field ∈ fields, property (.entry [field.1] field.2) := List.forall_mem_map

/-- A property of sections under one header. -/
theorem forall_mem_elementLines {name : String} {bodies : List (List (String × Field))} :
    (∀ line ∈ elementLines name bodies, property line) ↔
      ∀ fields ∈ bodies, property (.element [name]) ∧
        ∀ field ∈ fields, property (.entry [field.1] field.2) := by
  simp only [elementLines, List.mem_flatMap, forall_exists_index, and_imp]
  constructor
  · intro hlines fields hfields
    have hsection (line : Line Field) := hlines line fields hfields
    exact ⟨hsection _ List.mem_cons_self, forall_mem_entryLines.1 fun line hline =>
      hsection line (List.mem_cons_of_mem _ hline)⟩
  · intro hbodies line fields hfields hline
    obtain ⟨hheader, hentries⟩ := hbodies fields hfields
    obtain rfl | hentry := List.mem_cons.1 hline
    · exact hheader
    · exact forall_mem_entryLines.2 hentries line hentry

/-- A property of the lines of a configuration is one of its headers and its entries. -/
theorem forall_mem_lines {config : Config} :
    (∀ line ∈ config.lines, property line) ↔
      (∀ field ∈ config.fields, property (.entry [field.1] field.2)) ∧
      (∀ rule ∈ config.rules, property (.element ["rules"]) ∧
        ∀ field ∈ rule.fields, property (.entry [field.1] field.2)) ∧
      (∀ block ∈ config.blocks, property (.element ["blocks"]) ∧
        ∀ field ∈ block.fields, property (.entry [field.1] field.2)) ∧
      property (.table ["groups"]) ∧
        ∀ field ∈ config.groups.fields, property (.entry [field.1] field.2) := by
  rw [lines_eq, List.forall_mem_append, List.forall_mem_append, List.forall_mem_append,
    List.forall_mem_cons, forall_mem_entryLines, forall_mem_elementLines, forall_mem_elementLines,
    forall_mem_entryLines, List.forall_mem_map, List.forall_mem_map]

end Lines

/-- Every line of a configuration has a path. -/
theorem path_ne_nil (config : Config) : ∀ line ∈ config.lines, line.path ≠ [] := by
  simp [forall_mem_lines, Line.path]

/-- A number of 64 bits is not too large to be read. -/
theorem fits_number {size : Nat} (hsize : size ≤ Text.maxSize) : (Field.number size).Fits := by
  have hmax : (Text.maxSize : Int) ≤ Toml.maxWhole := by decide
  exact Int.le_trans (Int.ofNat_le.2 hsize) hmax

/-- The fields of a rule fit if its selected group does. -/
theorem RuleEntry.forall_fits_fields {rule : RuleEntry}
    (hcapture : ∀ index ∈ rule.capture, index ≤ Text.maxSize) :
    ∀ field ∈ rule.fields, field.2.Fits := by
  obtain ⟨name, pattern, discard, capture, value⟩ := rule
  cases capture with
  | none => cases discard <;> simp [fields, Field.Fits]
  | some index =>
      have hindex : (Field.number index).Fits := fits_number (hcapture index rfl)
      cases discard <;> simpa [fields, Field.Fits] using hindex

/-- The fields of a block fit. -/
theorem BlockEntry.forall_fits_fields (block : BlockEntry) :
    ∀ field ∈ block.fields, field.2.Fits := by
  obtain ⟨opens, closes, name⟩ := block
  cases name <;> simp [fields, Field.Fits]

/-- The fields of groups fit. -/
theorem Groups.forall_fits_fields (groups : Groups) : ∀ field ∈ groups.fields, field.2.Fits := by
  intro field hfield
  obtain ⟨entry, -, rfl⟩ := List.mem_map.1 hfield
  trivial

/-- The fields before the headers fit if the number among them does. -/
theorem forall_fits_fields {config : Config} (hdepth : config.maxDepth ≤ Text.maxSize) :
    ∀ field ∈ config.fields, field.2.Fits := by
  have hdepth : (Field.number config.maxDepth).Fits := fits_number hdepth
  cases hr : config.rules.isEmpty <;> cases hb : config.blocks.isEmpty <;>
    simpa [fields, emptyField, hr, hb, Field.Fits] using hdepth

/-- The lines of a configuration fit if its numbers do. -/
theorem Fits.forall_fits_lines {config : Config} (hfits : config.Fits) :
    ∀ line ∈ config.lines, line.Fits := by
  refine forall_mem_lines.2 ⟨config.forall_fits_fields hfits.maxDepth, fun rule hrule => ?_,
    fun block _ => ?_, trivial, config.groups.forall_fits_fields⟩
  · exact ⟨trivial, RuleEntry.forall_fits_fields (hfits.capture rule hrule)⟩
  · exact ⟨trivial, block.forall_fits_fields⟩

/-- A configuration is read back from its text. -/
theorem read_write {config : Config} (hfits : config.Fits) : read config.write = .ok config := by
  have hread := Toml.read?_write config.path_ne_nil hfits.forall_fits_lines
  obtain ⟨entries, hmeaning, hlookup⟩ := config.meaning?_lines
  rw [hmeaning] at hread
  rw [read, write, hread]
  show (ofEntries entries).mapError _ = _
  rw [ofEntries_of_lookup hfits hlookup]
  rfl

end TokenTree.Config
