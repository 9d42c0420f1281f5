import TokenTree.Config.Storage
import TokenTree.Proofs.Config.Roundtrip

/-!
# Configurations saved and loaded

Saving makes the directories on the way and writes the file, so it succeeds wherever neither a file
nor a directory is in the way (`isSome_save?_iff`), whatever the configuration holds. What is loaded
then is the configuration, all of it, up to the largest numbers of 64 bits: see `load_save`.
-/

namespace TokenTree.Config

namespace Place

variable {place after : Place} {path : List String} {name : String} {content : ByteArray}
  {entries : List (String × Place)}

/-! ## Writing -/

/-- A place that is put in is found. -/
@[simp] theorem lookup_put (name : String) (place : Place) (entries : List (String × Place)) :
    (put name place entries).lookup name = some place := List.lookup_cons_self

/-- The last of two places that are put in counts. -/
@[simp] theorem put_put (name : String) (first last : Place) (entries : List (String × Place)) :
    put name last (put name first entries) = put name last entries := by
  simp [put, List.filter_filter]

/-- A file that is written stands at its path. -/
theorem at?_of_write? (hwrite : place.write? content path = some after) :
    after.at? path = some (.file content) := by
  fun_induction write? content place path generalizing after with
  | case1 => cases hwrite
  | case2 => cases hwrite
  | case3 => cases hwrite
  | case4 entries name =>
      obtain rfl := Option.some.inj hwrite
      simp [at?]
  | case5 entries name path hpath ih =>
      obtain ⟨inner, hinner, hrest⟩ := Option.bind_eq_some_iff.1 hwrite
      obtain ⟨written, hwritten, hafter⟩ := Option.bind_eq_some_iff.1 hrest
      obtain rfl := Option.some.inj hafter
      simp [at?, ih inner hwritten]

/-- Make the directories on the way to a file and write it. -/
def save? (content : ByteArray) (place : Place) (path : List String) : Option Place := do
  (← place.makeDirectories? path.dropLast).write? content path

/-- A file that is saved stands at its path. -/
theorem at?_of_save? (hsave : place.save? content path = some after) :
    after.at? path = some (.file content) := by
  obtain ⟨made, -, hwrite⟩ := Option.bind_eq_some_iff.1 hsave
  exact at?_of_write? hwrite

/-- The place of a name, or a directory that is made for it. -/
def inner (name : String) (entries : List (String × Place)) : Place :=
  (entries.lookup name).getD (.directory [])

/-- What is saved further down is saved in the directory of the first name. -/
theorem save?_cons (hpath : path ≠ []) :
    (directory entries).save? content (name :: path) =
      ((inner name entries).save? content path).map fun saved =>
        .directory (put name saved entries) := by
  obtain ⟨next, rest, rfl⟩ := List.exists_cons_of_ne_nil hpath
  show ((directory entries).makeDirectories? (name :: (next :: rest).dropLast)).bind _ =
    (((inner name entries).makeDirectories? (next :: rest).dropLast).bind _).map _
  rw [makeDirectories?]
  show (((inner name entries).makeDirectories? (next :: rest).dropLast).bind _).bind _ = _
  cases (inner name entries).makeDirectories? (next :: rest).dropLast with
  | none => rfl
  | some made =>
      show (directory (put name made entries)).write? content (name :: next :: rest) = _
      rw [write?, lookup_put]
      · show (made.write? _ _).bind _ = (made.write? _ _).map _
        cases made.write? content (next :: rest) <;> simp
      · exact nofun

/-! ## Places that can be written -/

/-- A file can be written at the path: it has a name, no file is in the way, and no directory stands
there. -/
structure Writable (place : Place) (path : List String) : Prop where
  named : path ≠ []
  passable : ∀ front rest, path = front ++ rest → rest ≠ [] →
    ∀ content, place.at? front ≠ some (.file content)
  free : ∀ entries, place.at? path ≠ some (.directory entries)

/-- Nothing can be written inside a file. -/
theorem not_writable_file : ¬ (file content).Writable path :=
  fun hwritable => hwritable.passable [] path rfl hwritable.named content rfl

/-- In a directory the place of a name is looked up. -/
theorem at?_cons (path : List String) :
    (directory entries).at? (name :: path) = (entries.lookup name).bind (·.at? path) := rfl

/-- A file of a directory can be written unless it is a directory itself. -/
theorem writable_singleton :
    (directory entries).Writable [name] ↔
      ∀ others, entries.lookup name ≠ some (.directory others) := by
  have hplace : (directory entries).at? [name] = entries.lookup name := by
    rw [at?_cons]
    cases entries.lookup name <;> rfl
  constructor
  · intro hwritable others
    rw [← hplace]
    exact hwritable.free others
  · intro hfree
    refine ⟨List.cons_ne_nil _ _, fun front rest hpath hrest content => ?_, fun others => ?_⟩
    · cases front with
      | nil => exact nofun
      | cons first front =>
          obtain ⟨rfl, hrest'⟩ := List.cons.inj hpath
          exact absurd (List.append_eq_nil_iff.1 hrest'.symm).2 hrest
    · rw [hplace]
      exact hfree others

/-- A file further down is one in the directory of the first name. -/
theorem at?_eq_file_iff :
    (directory entries).at? (name :: path) = some (.file content) ↔
      (inner name entries).at? path = some (.file content) := by
  rw [at?_cons, inner]
  cases entries.lookup name with
  | some place => rfl
  | none => cases path <;> simp [at?]

/-- A directory further down is one in the directory of the first name. -/
theorem at?_eq_directory_iff (hpath : path ≠ []) {others : List (String × Place)} :
    (directory entries).at? (name :: path) = some (.directory others) ↔
      (inner name entries).at? path = some (.directory others) := by
  obtain ⟨next, rest, rfl⟩ := List.exists_cons_of_ne_nil hpath
  rw [at?_cons, inner]
  cases entries.lookup name with
  | some place => rfl
  | none => simp [at?]

/-- Further down a file can be written if it can be in the directory of the first name. -/
theorem writable_cons (hpath : path ≠ []) :
    (directory entries).Writable (name :: path) ↔ (inner name entries).Writable path := by
  constructor
  · intro hwritable
    refine ⟨hpath, fun front rest hfront hrest content hfile => ?_, fun others hdirectory => ?_⟩
    · exact hwritable.passable (name :: front) rest (congrArg _ hfront) hrest content
        (at?_eq_file_iff.2 hfile)
    · exact hwritable.free others ((at?_eq_directory_iff hpath).2 hdirectory)
  · intro hwritable
    refine ⟨List.cons_ne_nil _ _, fun front rest hfront hrest content hfile => ?_,
      fun others hdirectory => ?_⟩
    · cases front with
      | nil => cases hfile
      | cons first front =>
          obtain ⟨rfl, hpath'⟩ := List.cons.inj hfront
          exact hwritable.passable front rest hpath' hrest content (at?_eq_file_iff.1 hfile)
    · exact hwritable.free others ((at?_eq_directory_iff hpath).1 hdirectory)

/-- A file is saved wherever it can be written. -/
theorem isSome_save?_iff : (place.save? content path).isSome ↔ place.Writable path := by
  -- By the names of the path; the last one is that of the file itself.
  induction path generalizing place with
  | nil =>
      have hnone : place.save? content [] = none := by
        cases place <;> rfl
      rw [hnone]
      exact ⟨nofun, fun hwritable => absurd rfl hwritable.named⟩
  | cons name path ih =>
      cases place with
      | file other =>
          have hnone : (file other).save? content (name :: path) = none := by
            rw [save?, makeDirectories?]
            rfl
          rw [hnone]
          exact ⟨nofun, fun hwritable => absurd hwritable not_writable_file⟩
      | directory entries =>
          by_cases hpath : path = []
          · subst hpath
            rw [writable_singleton]
            show ((directory entries).write? content [name]).isSome ↔ _
            rw [write?]
            cases hplace : entries.lookup name with
            | none => simp
            | some place => cases place <;> simp
          · rw [save?_cons hpath, Option.isSome_map, ih, writable_cons hpath]

end Place

namespace Storage

/-- A file can be written at the path. -/
def Writable (storage : Storage) (path : String) : Prop := storage.root.Writable (names path)

/-- Saving saves the text of the configuration in the root. -/
theorem save?_eq (storage : Storage) (path : String) (config : Config) :
    storage.save? path config =
      (storage.root.save? config.write.toUTF8 (names path)).map
        fun root => { storage with root } := by
  rw [save?, Place.save?]
  cases storage.root.makeDirectories? (names path).dropLast with
  | none => rfl
  | some made =>
      show (made.write? _ _).bind _ = (made.write? _ _).map _
      cases made.write? config.write.toUTF8 (names path) <;> rfl

/-- A text is the one of its bytes. -/
theorem fromUTF8?_toUTF8 (text : String) : String.fromUTF8? text.toUTF8 = some text := by
  rw [String.fromUTF8?, String.toUTF8_eq_toByteArray, dif_pos text.isValidUTF8]
  rfl

/-- The text of a configuration stands where it is saved. -/
theorem at?_of_save? {storage after : Storage} {path : String} {config : Config}
    (hsave : storage.save? path config = some after) :
    after.at? path = some (.file config.write.toUTF8) := by
  rw [save?_eq] at hsave
  obtain ⟨root, hroot, rfl⟩ := Option.map_eq_some_iff.1 hsave
  exact Place.at?_of_save? hroot

/-- A text that is a configuration is loaded as it. -/
theorem result_load_of_ok {storage : Storage} {path text : String} {place : Place} {config : Config}
    (hplace : storage.at? path = some place) (htext : place.text? = some text)
    (hread : read text = .ok config) : (storage.load path).result = .ok (some config) := by
  simp only [load, hplace, htext, hread]
  rfl

/-- A configuration is saved exactly where a file can be written, and the configuration that is then
loaded is the same. Its numbers are any that 64 bits hold. -/
theorem load_save (storage : Storage) (path : String) {config : Config} (hfits : config.Fits) :
    ((storage.save? path config).isSome ↔ storage.Writable path) ∧
    ∀ after, storage.save? path config = some after →
      after.text? path = some config.write ∧ read config.write = .ok config ∧
        (after.load path).result = .ok (some config) := by
  refine ⟨?_, fun after hsave => ?_⟩
  · rw [save?_eq, Option.isSome_map]
    exact Place.isSome_save?_iff
  · have hplace := at?_of_save? hsave
    have htext : (Place.file config.write.toUTF8).text? = some config.write :=
      fromUTF8?_toUTF8 config.write
    refine ⟨?_, read_write hfits, result_load_of_ok hplace htext (read_write hfits)⟩
    rw [text?, hplace, Option.bind_some, htext]

/-- An empty storage. -/
def blank : Storage := ⟨"storage", .directory []⟩

/-- The name of a file is a path of its own. -/
theorem names_g : names "g" = ["g"] := by
  have hsplit : "g".splitOn "/" = ["g"] := by
    rw [String.splitOn, if_neg (by decide), String.splitOnAux, if_neg (by decide),
      if_neg (by decide), String.splitOnAux, if_pos (by decide)]
    decide
  rw [names, hsplit]
  decide

/-- A file can be written into an empty storage. -/
theorem writable_blank : blank.Writable "g" := by
  rw [Writable, names_g]
  exact Place.writable_singleton.2 fun _ => nofun

/-- A rule with both kinds of quotes and a line break in its strings, beside a nameless block and a
group, with the largest number of 64 bits. -/
def quoting : Config where
  maxDepth := 0xFFFFFFFFFFFFFFFF
  rules := [⟨"it's", "\"\\d\n", true, some 1, .int⟩]
  blocks := [⟨"[", "]", none⟩]
  groups := ⟨[("", ["a", "b"])], List.pairwise_singleton _ _⟩

/-- It is saved and loaded again. -/
theorem load_save_blank :
    quoting.Fits ∧ ∃ after, blank.save? "g" quoting = some after ∧
      (after.load "g").result = .ok (some quoting) := by
  have hfits : quoting.Fits := ⟨by decide, by decide⟩
  obtain ⟨hsaved, hloaded⟩ := load_save blank "g" hfits
  obtain ⟨after, hafter⟩ := Option.isSome_iff_exists.1 (hsaved.2 writable_blank)
  exact ⟨hfits, after, hafter, (hloaded after hafter).2.2⟩

end Storage

end TokenTree.Config
