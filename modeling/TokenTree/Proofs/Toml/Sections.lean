import TokenTree.Toml.Document

/-!
# The meaning of documents in sections

A plain document has entries with keys of their own, then headers with more such entries below each.
What it means is said section by section. The tables of a document stay sorted, and on a sorted
table a change of one key is a lookup and an assignment (`alter?_eq`); the entries of a section are
all changes inside one part of the document (`foldlM_take?_entryLines`).
-/

namespace TokenTree.Toml

namespace Entries

variable {key other : String} {item : Item} {entries : Entries} {change : Option Item → Option Item}

/-! ## Sorted tables -/

/-- The keys go up. -/
def Sorted (entries : Entries) : Prop := entries.Pairwise fun left right => left.1 < right.1

/-- Let a key stand for an item. -/
def set (key : String) (item : Item) : Entries → Entries
  | [] => [(key, item)]
  | (name, old) :: rest =>
      if key = name then (name, item) :: rest
      else if key < name then (key, item) :: (name, old) :: rest
      else (name, old) :: set key item rest

/-- A key that comes before all others is not there. -/
theorem lookup_eq_none_of_lt (hlt : ∀ entry ∈ entries, key < entry.1) :
    entries.lookup key = none := by
  rw [List.lookup_eq_none_iff]
  intro entry hentry
  have hne : key ≠ entry.1 := fun heq => String.lt_irrefl key (heq ▸ hlt entry hentry)
  simpa using hne

/-- A lookup past an entry of another key. -/
theorem lookup_cons_of_ne {name : String} (hne : key ≠ name) :
    List.lookup key ((name, item) :: entries) = List.lookup key entries := by
  rw [List.lookup_cons, beq_false_of_ne hne]

/-- In a sorted table a change of a key is a lookup and an assignment. -/
theorem alter?_eq (hsorted : entries.Sorted) :
    entries.alter? key change =
      (change (entries.lookup key)).map fun item => set key item entries := by
  fun_induction alter? key change entries with
  | case1 => rfl
  | case2 item rest => simp [set]
  | case3 name item rest hne hlt =>
      have hothers (entry : String × Item) (hentry : entry ∈ rest) : key < entry.1 :=
        String.lt_trans hlt ((List.pairwise_cons.1 hsorted).1 entry hentry)
      rw [lookup_cons_of_ne hne, lookup_eq_none_of_lt hothers]
      simp [set, hne, hlt]
  | case4 name item rest hne hlt ih =>
      rw [ih (List.pairwise_cons.1 hsorted).2, lookup_cons_of_ne hne]
      simp [set, hne, hlt, Function.comp_def]

/-- What a key stands for after an assignment. -/
theorem lookup_set :
    List.lookup other (set key item entries) =
      if other = key then some item else List.lookup other entries := by
  fun_induction set key item entries <;> grind

/-- The last of two assignments counts. -/
@[simp] theorem set_set (old : Item) :
    set key item (set key old entries) = set key item entries := by
  fun_induction set key old entries <;> grind [set]

/-- The keys of a table after an assignment. -/
theorem of_mem_set {entry : String × Item} (hentry : entry ∈ set key item entries) :
    entry.1 = key ∨ entry ∈ entries := by
  fun_induction set key item entries <;> grind

/-- Assignments keep a table sorted. -/
theorem Sorted.set (hsorted : entries.Sorted) : (entries.set key item).Sorted := by
  fun_induction Entries.set key item entries with
  | case1 => exact List.pairwise_singleton _ _
  | case2 => exact List.pairwise_cons.2 (List.pairwise_cons.1 hsorted)
  | case3 name old rest hne hlt =>
      refine List.pairwise_cons.2 ⟨fun entry hentry => ?_, hsorted⟩
      obtain rfl | hrest := List.mem_cons.1 hentry
      · exact hlt
      · exact String.lt_trans hlt ((List.pairwise_cons.1 hsorted).1 entry hrest)
  | case4 name old rest hne hlt ih =>
      refine List.pairwise_cons.2 ⟨fun entry hentry => ?_, ih (List.pairwise_cons.1 hsorted).2⟩
      obtain hkey | hrest := of_mem_set hentry
      · rw [hkey]
        exact Std.not_le.1 fun hle => hne (Std.le_antisymm hle (Std.not_lt.1 hlt))
      · exact (List.pairwise_cons.1 hsorted).1 entry hrest

/-- A key that comes after all others is put last. -/
theorem set_of_forall_lt (hlt : ∀ entry ∈ entries, entry.1 < key) :
    set key item entries = entries ++ [(key, item)] := by
  fun_induction set key item entries with
  | case1 => rfl
  | case2 old rest => exact absurd (hlt _ List.mem_cons_self) (String.lt_irrefl key)
  | case3 name old rest hne hless =>
      have hlater := String.lt_trans hless (hlt (name, old) List.mem_cons_self)
      exact absurd hlater (String.lt_irrefl key)
  | case4 name old rest hne hless ih =>
      rw [ih fun entry hentry => hlt entry (List.mem_cons_of_mem _ hentry), List.cons_append]

/-! ## Values in a table -/

/-- Give values to several keys. -/
def putAll (fields : List (String × Value)) (entries : Entries) : Entries :=
  fields.foldl (fun entries field => set field.1 (.value field.2) entries) entries

/-- No two fields have the same key. -/
def DistinctKeys {α : Type} (fields : List (String × α)) : Prop :=
  fields.Pairwise fun left right => left.1 ≠ right.1

variable {fields : List (String × Value)}

/-- A table stays sorted. -/
theorem Sorted.putAll (hsorted : entries.Sorted) : (entries.putAll fields).Sorted := by
  induction fields generalizing entries with
  | nil => exact hsorted
  | cons field fields ih => exact ih hsorted.set

/-- A key among the fields has its value, and any other stands for what it did before. -/
theorem lookup_putAll (hkeys : DistinctKeys fields) :
    List.lookup key (putAll fields entries) =
      ((fields.lookup key).map Item.value).or (entries.lookup key) := by
  induction fields generalizing entries with
  | nil => rfl
  | cons field fields ih =>
      obtain ⟨name, value⟩ := field
      obtain ⟨hfirst, hothers⟩ := List.pairwise_cons.1 hkeys
      show List.lookup key (putAll fields (set name (.value value) entries)) = _
      rw [ih hothers, lookup_set]
      by_cases hkey : key = name
      · subst hkey
        have habsent : fields.lookup key = none := by
          rw [List.lookup_eq_none_iff]
          exact fun other hother => by simpa using hfirst other hother
        simp [habsent]
      · simp [List.lookup_cons, beq_false_of_ne hkey, hkey]

/-- A key without a value gets one. -/
theorem put?_eq {value : Value} (hsorted : entries.Sorted) (habsent : entries.lookup key = none) :
    put? value [key] entries = some (set key (.value value) entries) := by
  rw [put?, alter?_eq hsorted, habsent]
  rfl

/-- Keys without values get theirs one after the other. -/
theorem foldlM_put? (hsorted : entries.Sorted) (hkeys : DistinctKeys fields)
    (habsent : ∀ field ∈ fields, entries.lookup field.1 = none) :
    fields.foldlM (fun entries field => put? field.2 [field.1] entries) entries =
      some (entries.putAll fields) := by
  induction fields generalizing entries with
  | nil => rfl
  | cons field fields ih =>
      obtain ⟨hfirst, hothers⟩ := List.pairwise_cons.1 hkeys
      obtain ⟨hnone, hrest⟩ := List.forall_mem_cons.1 habsent
      rw [List.foldlM_cons, put?_eq hsorted hnone]
      refine ih hsorted.set hothers fun other hother => ?_
      rw [lookup_set, if_neg (hfirst other hother).symm]
      exact hrest other hother

/-- The table of some fields alone. -/
def ofFields (fields : List (String × Value)) : Entries := putAll fields []

/-- The empty table is sorted. -/
theorem sorted_nil : Sorted [] := List.Pairwise.nil

/-- The table of some fields is sorted. -/
theorem sorted_ofFields (fields : List (String × Value)) : (ofFields fields).Sorted :=
  sorted_nil.putAll

/-- The table of some fields has their values. -/
theorem lookup_ofFields (hkeys : DistinctKeys fields) (key : String) :
    List.lookup key (ofFields fields) = (fields.lookup key).map Item.value := by
  rw [ofFields, lookup_putAll hkeys, List.lookup_nil, Option.or_none]

/-- Where the keys of the fields go up, their table has them in order. -/
theorem ofFields_of_sorted (hsorted : fields.Pairwise fun left right => left.1 < right.1) :
    ofFields fields = fields.map fun field => (field.1, .value field.2) := by
  have hput (entries : Entries) (hlt : ∀ entry ∈ entries, ∀ field ∈ fields, entry.1 < field.1) :
      putAll fields entries = entries ++ fields.map fun field => (field.1, .value field.2) := by
    induction fields generalizing entries with
    | nil => exact (List.append_nil _).symm
    | cons field fields ih =>
        obtain ⟨hfirst, hothers⟩ := List.pairwise_cons.1 hsorted
        show putAll fields (set field.1 (.value field.2) entries) = _
        rw [set_of_forall_lt fun entry hentry => hlt entry hentry field List.mem_cons_self,
          ih hothers]
        · simp
        · intro entry hentry other hother
          obtain hold | hnew := List.mem_append.1 hentry
          · exact hlt entry hold other (List.mem_cons_of_mem _ hother)
          · rw [List.mem_singleton.1 hnew]
            exact hfirst other hother
  exact hput [] nofun

end Entries

/-! ## Closed tables -/

/-- A closed table has the values of its items. -/
theorem lookup_closeEntries (key : String) (entries : Entries) :
    List.lookup key (closeEntries entries) = (entries.lookup key).map Item.close := by
  induction entries with
  | nil => rfl
  | cons entry entries ih =>
      obtain ⟨name, item⟩ := entry
      rw [closeEntries, List.lookup_cons, List.lookup_cons, ih]
      split <;> rfl

/-- The closed tables of an array. -/
theorem closeTables_eq (tables : List Entries) :
    closeTables tables = tables.map fun entries => .table (closeEntries entries) := by
  induction tables with
  | nil => rfl
  | cons entries tables ih => rw [closeTables, ih, List.map_cons]

/-- A closed table of fields. -/
theorem lookup_closeEntries_ofFields {fields : List (String × Value)}
    (hkeys : Entries.DistinctKeys fields) (key : String) :
    List.lookup key (closeEntries (Entries.ofFields fields)) = fields.lookup key := by
  rw [lookup_closeEntries, Entries.lookup_ofFields hkeys]
  simp [Function.comp_def, Item.close]

/-- A closed table of fields whose keys go up. -/
theorem closeEntries_ofFields {fields : List (String × Value)}
    (hsorted : fields.Pairwise fun left right => left.1 < right.1) :
    closeEntries (Entries.ofFields fields) = fields := by
  rw [Entries.ofFields_of_sorted hsorted]
  induction fields with
  | nil => rfl
  | cons field fields ih =>
      rw [List.map_cons, closeEntries, ih (List.pairwise_cons.1 hsorted).2, Item.close]

/-! ## Sections -/

namespace Document

open Entries

variable {entries : Entries} {name : String} {path : List String} {fields : List (String × Value)}

/-- An entry for each field. -/
def entryLines {α : Type} (fields : List (String × α)) : List (Line α) :=
  fields.map fun field => .entry [field.1] field.2

/-- The entries below a header go into its part of the document. -/
theorem foldlM_take?_entryLines {part : Entries → Entries}
    (hwithin : ∀ change inner, (part inner).within? change path = (change inner).map part)
    (inner : Entries) :
    (entryLines fields).foldlM take? ⟨part inner, path⟩ =
      (fields.foldlM (fun entries field => put? field.2 [field.1] entries) inner).map
        fun inner => ⟨part inner, path⟩ := by
  induction fields generalizing inner with
  | nil => rfl
  | cons field fields ih =>
      show (take? ⟨part inner, path⟩ (.entry [field.1] field.2) >>= _) = _
      rw [take?, hwithin, List.foldlM_cons]
      cases put? field.2 [field.1] inner with
      | none => rfl
      | some inner => exact ih inner

/-- Fields with keys of their own make the table of their part. -/
theorem foldlM_take?_fields {part : Entries → Entries}
    (hwithin : ∀ change inner, (part inner).within? change path = (change inner).map part)
    (hkeys : DistinctKeys fields) :
    (entryLines fields).foldlM take? ⟨part [], path⟩ = some ⟨part (ofFields fields), path⟩ := by
  rw [foldlM_take?_entryLines hwithin, foldlM_put? sorted_nil hkeys fun _ _ => rfl]
  rfl

/-- Entries before all headers make the table of the document. -/
theorem foldlM_take?_root (hkeys : DistinctKeys fields) :
    (entryLines fields).foldlM take? empty = some ⟨ofFields fields, []⟩ := by
  have hwithin (change : Entries → Option Entries) (inner : Entries) :
      within? change [] (id inner) = (change inner).map id := by
    rw [Option.map_id]
    rfl
  exact foldlM_take?_fields hwithin hkeys

/-- A header and the entries below it make the table of a new key. -/
theorem foldlM_take?_table (hsorted : entries.Sorted) (habsent : entries.lookup name = none)
    (hkeys : DistinctKeys fields) :
    (.table [name] :: entryLines fields).foldlM take? ⟨entries, path⟩ =
      some ⟨set name (.table .started (ofFields fields)) entries, [name]⟩ := by
  have hstart : take? ⟨entries, path⟩ (.table [name]) =
      some ⟨set name (.table .started []) entries, [name]⟩ := by
    simp [take?, within?, start?, alter?_eq hsorted, habsent]
  have hwithin (change : Entries → Option Entries) (inner : Entries) :
      within? change [name] (set name (.table .started inner) entries) =
        (change inner).map fun inner => set name (.table .started inner) entries := by
    simp [within?, alter?_eq hsorted.set, lookup_set, Function.comp_def]
  rw [List.foldlM_cons, hstart]
  exact foldlM_take?_fields hwithin hkeys

/-- Only the last of several tables is changed. -/
theorem changeLast?_append (change : Entries → Option Entries) (tables : List Entries)
    (last : Entries) :
    changeLast? change (tables ++ [last]) = (change last).map fun last => tables ++ [last] := by
  induction tables with
  | nil => rfl
  | cons table tables ih =>
      cases tables with
      | nil => simp [changeLast?, Function.comp_def]
      | cons next tables =>
          rw [List.cons_append] at ih
          simp [changeLast?, ih, Function.comp_def]

/-- A header and the entries below it make one more table in an array. -/
theorem foldlM_take?_element (hsorted : entries.Sorted) {tables : List Entries}
    (htables : entries.lookup name = none ∧ tables = [] ∨
      entries.lookup name = some (.elements tables))
    (hkeys : DistinctKeys fields) :
    (.element [name] :: entryLines fields).foldlM take? ⟨entries, path⟩ =
      some ⟨set name (.elements (tables ++ [ofFields fields])) entries, [name]⟩ := by
  have hstart : take? ⟨entries, path⟩ (.element [name]) =
      some ⟨set name (.elements (tables ++ [[]])) entries, [name]⟩ := by
    obtain ⟨habsent, rfl⟩ | hpresent := htables
    · simp [take?, within?, extend?, alter?_eq hsorted, habsent]
    · simp [take?, within?, extend?, alter?_eq hsorted, hpresent]
  have hwithin (change : Entries → Option Entries) (inner : Entries) :
      within? change [name] (set name (.elements (tables ++ [inner])) entries) =
        (change inner).map fun inner => set name (.elements (tables ++ [inner])) entries := by
    simp [within?, alter?_eq hsorted.set, lookup_set, changeLast?_append, Function.comp_def]
  rw [List.foldlM_cons, hstart]
  exact foldlM_take?_fields hwithin hkeys

/-- The lines of an array of tables. -/
def elementLines {α : Type} (name : String) (bodies : List (List (String × α))) : List (Line α) :=
  bodies.flatMap fun fields => .element [name] :: entryLines fields

/-- Headers of one name and the entries below them make the tables of an array. -/
theorem foldlM_take?_elements (hsorted : entries.Sorted) {tables : List Entries}
    (htables : entries.lookup name = none ∧ tables = [] ∨
      entries.lookup name = some (.elements tables))
    {bodies : List (List (String × Value))} (hbodies : bodies ≠ [])
    (hkeys : ∀ fields ∈ bodies, DistinctKeys fields) :
    (elementLines name bodies).foldlM take? ⟨entries, path⟩ =
      some ⟨set name (.elements (tables ++ bodies.map ofFields)) entries, [name]⟩ := by
  induction bodies generalizing entries tables path with
  | nil => exact absurd rfl hbodies
  | cons fields bodies ih =>
      obtain ⟨hfields, hothers⟩ := List.forall_mem_cons.1 hkeys
      rw [elementLines, List.flatMap_cons, List.foldlM_append,
        foldlM_take?_element hsorted htables hfields]
      cases bodies with
      | nil => rfl
      | cons next bodies =>
          have hlast : List.lookup name
              (set name (.elements (tables ++ [ofFields fields])) entries) =
                some (.elements (tables ++ [ofFields fields])) := by
            rw [lookup_set, if_pos rfl]
          refine (ih hsorted.set (.inr hlast) (List.cons_ne_nil _ _) hothers).trans ?_
          rw [set_set, List.append_assoc]
          rfl

/-- The tables of a document are sorted, and its keys stand for the given items. -/
structure Has (document : Document) (items : String → Option Item) : Prop where
  sorted : document.entries.Sorted
  lookup : ∀ key, document.entries.lookup key = items key

variable {document : Document} {items : String → Option Item}

/-- Entries before all headers give their values to their keys. -/
theorem exists_root (hkeys : DistinctKeys fields) :
    ∃ after, (entryLines fields).foldlM take? empty = some after ∧
      after.Has fun key => (fields.lookup key).map Item.value :=
  ⟨_, foldlM_take?_root hkeys, sorted_ofFields fields, lookup_ofFields hkeys⟩

/-- Headers of a new name make an array under that name if there are any, and change nothing else.
-/
theorem Has.exists_elements (hhas : document.Has items) (name : String)
    (bodies : List (List (String × Value))) (habsent : bodies ≠ [] → items name = none)
    (hkeys : ∀ fields ∈ bodies, DistinctKeys fields) :
    ∃ after, (elementLines name bodies).foldlM take? document = some after ∧
      after.Has fun key =>
        if key = name ∧ bodies ≠ [] then some (.elements (bodies.map ofFields)) else items key := by
  by_cases hbodies : bodies = []
  · subst hbodies
    exact ⟨document, rfl, hhas.sorted, fun key => by simp [hhas.lookup key]⟩
  · have hname := (hhas.lookup name).trans (habsent hbodies)
    refine ⟨_, foldlM_take?_elements hhas.sorted (.inl ⟨hname, rfl⟩) hbodies hkeys,
      hhas.sorted.set, fun key => ?_⟩
    rw [lookup_set, hhas.lookup key]
    simp [hbodies]

/-- A header of a new name makes a table under that name, and changes nothing else. -/
theorem Has.exists_table (hhas : document.Has items) (name : String) (habsent : items name = none)
    (hkeys : DistinctKeys fields) :
    ∃ after, (.table [name] :: entryLines fields).foldlM take? document = some after ∧
      after.Has fun key =>
        if key = name then some (.table .started (ofFields fields)) else items key := by
  have hname := (hhas.lookup name).trans habsent
  refine ⟨_, foldlM_take?_table hhas.sorted hname hkeys, hhas.sorted.set, fun key => ?_⟩
  rw [lookup_set, hhas.lookup key]

/-- The lines of a document mean what its keys stand for. -/
theorem Has.lookup_close (hhas : document.Has items) (key : String) :
    List.lookup key (closeEntries document.entries) = (items key).map Item.close := by
  rw [lookup_closeEntries, hhas.lookup key]

end Document

end TokenTree.Toml
