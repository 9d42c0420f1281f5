import TokenTree.Proofs.Toml.Parts

/-!
# Documents read back

A document that is written is read back line by line, each value up to the character that ends it.
Numbers are written whatever their size but not read beyond 128 bits, so `read?_write` is about
documents whose numbers fit.
-/

namespace TokenTree.Toml

variable {c next : Char} {rest text : List Char} {nesting : Nat}

/-! ## Values -/

/-- A string starts with a quote. -/
theorem writeString_cons (content : String) :
    ∃ first others, writeString content = first :: others ∧ (first = '"' ∨ first = '\'') := by
  obtain ⟨others, hothers⟩ := Style.write_cons (Style.ofContent content.toList) content.toList
  exact ⟨_, others, hothers, Style.quote_eq _⟩

/-- A string is read as a value. -/
theorem readValue?_writeString (nesting : Nat) (content : String) (hnext : IsClear next)
    (rest : List Char) :
    readValue? nesting (writeString content ++ next :: rest) =
      some (.string content, next :: rest) := by
  have hstring : readString? (writeString content ++ next :: rest) = some (content, next :: rest) :=
    readString?_writeString content hnext
  obtain ⟨first, others, hfirst, rfl | rfl⟩ := writeString_cons content
  all_goals
    rw [hfirst, List.cons_append] at hstring ⊢
    rw [readValue?, hstring]
    rfl

/-- A word is read as a value. -/
theorem readValue?_cons (hclear : IsClear c) (hbracket : c ≠ '[') (hbrace : c ≠ '\x7b') :
    readValue? nesting (c :: rest) = readWord? (c :: rest) := by
  obtain ⟨hdouble, hsingle⟩ := hclear
  rw [readValue?.eq_def]
  grind

/-! ## Lists -/

section Items

variable {α : Type} {item? : List Char → Option (α × List Char)} {close : Char} {most : Nat}
  {item : α} {others after : List Char}

/-- An item before the end of the list. -/
theorem readItems?_last (htext : skipTrivia? false text = some (c :: others)) (hclose : c ≠ close)
    (hitem : item? (c :: others) = some (item, after))
    (hafter : skipTrivia? false after = some (close :: rest)) :
    readItems? item? close (most + 1) text = some ([item], rest) := by
  simp [readItems?, htext, hclose, hitem, hafter]

/-- An item before a comma. -/
theorem readItems?_more (htext : skipTrivia? false text = some (c :: others)) (hclose : c ≠ close)
    (hitem : item? (c :: others) = some (item, after))
    (hafter : skipTrivia? false after = some (',' :: rest)) (hcomma : ',' ≠ close) :
    readItems? item? close (most + 1) text =
      (readItems? item? close most rest).map fun (items, rest) => (item :: items, rest) := by
  cases hrest : readItems? item? close most rest <;>
    simp [readItems?, htext, hclose, hitem, hafter, hcomma, hrest]

end Items

/-- Before a string nothing is skipped, and no list ends. -/
theorem skipTrivia?_writeString (content : String) (rest : List Char) :
    ∃ first others, writeString content ++ rest = first :: others ∧
      skipTrivia? false (writeString content ++ rest) = some (first :: others) ∧ first ≠ ']' := by
  obtain ⟨first, others, hfirst, rfl | rfl⟩ := writeString_cons content
  all_goals
    refine ⟨_, others ++ rest, by rw [hfirst, List.cons_append], ?_, by decide⟩
    rw [hfirst, List.cons_append]
    exact skipTrivia?_cons (by decide)

/-- Items on lines of their own are read back up to the end of their list. -/
theorem readItems?_writeItem (items : List String) {most : Nat} (hmost : items.length < most) :
    readItems? (readValue? nesting) ']' most ('\n' :: items.flatMap writeItem ++ ']' :: rest) =
      some (items.map .string, rest) := by
  -- The line break before an item is the one after the bracket or after the item before it.
  induction items generalizing most with
  | nil =>
      obtain ⟨spare, rfl⟩ := Nat.exists_eq_add_of_lt hmost
      rfl
  | cons item items ih =>
      obtain ⟨spare, rfl⟩ := Nat.exists_eq_add_of_lt hmost
      have hrest := ih (Nat.lt_of_succ_lt_succ hmost)
      have hitem : '\n' :: (item :: items).flatMap writeItem ++ ']' :: rest =
          '\n' :: ' ' :: ' ' :: ' ' :: ' ' :: (writeString item ++
            ',' :: ('\n' :: items.flatMap writeItem ++ ']' :: rest)) := by
        simp [writeItem, List.replicate]
      have hvalue := readValue?_writeString nesting item (show IsClear ',' by decide)
        ('\n' :: items.flatMap writeItem ++ ']' :: rest)
      obtain ⟨first, others, hfirst, hskip, hclose⟩ := skipTrivia?_writeString item
        (',' :: ('\n' :: items.flatMap writeItem ++ ']' :: rest))
      rw [hfirst] at hvalue
      rw [hitem, readItems?_more ?_ hclose hvalue (skipTrivia?_cons (by decide)) (by decide), hrest]
      · rfl
      · rw [skipTrivia?, skipTrivia?_blank rfl, skipTrivia?_blank rfl, skipTrivia?_blank rfl,
          skipTrivia?_blank rfl, hskip]

/-- The number that a field holds, if any, is not too large to be read. -/
def Field.Fits : Field → Prop
  | .number value => (value : Int) ≤ maxWhole
  | _ => True

/-- Items on lines of their own are no more than there are characters. -/
theorem length_le_length_writeItem (items : List String) (rest : List Char) :
    items.length ≤ ('\n' :: items.flatMap writeItem ++ rest).length := by
  have hitems : items.length ≤ (items.flatMap writeItem).length := by
    induction items with
    | nil => exact Nat.le_refl _
    | cons item items ih =>
        simp only [List.flatMap_cons, List.length_append, List.length_cons, writeItem,
          List.length_replicate]
        omega
  simp only [List.length_append, List.length_cons]
  omega

/-- A list of strings is read back. -/
theorem readValue?_write_strings (items : List String) :
    readValue? (nesting + 1) ((Field.strings items).write ++ '\n' :: rest) =
      some (.array (items.map .string), '\n' :: rest) := by
  match items with
  | [] => rfl
  | [item] =>
      have hvalue := readValue?_writeString nesting item (show IsClear ']' by decide) ('\n' :: rest)
      obtain ⟨first, others, hfirst, hskip, hclose⟩ := skipTrivia?_writeString item
        (']' :: '\n' :: rest)
      have hwrite : (Field.strings [item]).write ++ '\n' :: rest =
          '[' :: (writeString item ++ ']' :: '\n' :: rest) := by
        simp [Field.write]
      rw [hfirst] at hvalue
      rw [hwrite, readValue?, readList?, readItems?_last hskip hclose hvalue
        (skipTrivia?_cons (by decide))]
      rfl
  | first :: second :: items =>
      have hwrite : (Field.strings (first :: second :: items)).write ++ '\n' :: rest =
          '[' :: ('\n' :: (first :: second :: items).flatMap writeItem ++ ']' :: '\n' :: rest) := by
        simp [Field.write]
      have hmost := Nat.lt_succ_of_le
        (length_le_length_writeItem (first :: second :: items) (']' :: '\n' :: rest))
      rw [hwrite, readValue?, readList?, readItems?_writeItem _ hmost]
      rfl

/-- A number that is not too large is read back. -/
theorem readValue?_toDigits {number : Nat} (hfits : (number : Int) ≤ maxWhole) :
    readValue? nesting (Nat.toDigits 10 number ++ '\n' :: rest) =
      some (.integer number, '\n' :: rest) := by
  have hword : ∀ c ∈ Nat.toDigits 10 number, isWordChar c = true := by
    intro c hc
    simp [isWordChar, Char.isAlphanum, isDigit_of_mem_toDigits hc]
  have hread := readWord?_append hword (show EndsWord '\n' by decide) rest
  obtain ⟨first, others, hfirst, hdigit⟩ := toDigits_cons number
  have hne {c : Char} (hc : c.isDigit = false) : first ≠ c := ne_of_test hdigit hc
  rw [ofWord?_toDigits hfits, hfirst, List.cons_append] at hread
  rw [hfirst, List.cons_append, readValue?_cons ⟨hne rfl, hne rfl⟩ (hne rfl) (hne rfl), hread]
  rfl

/-- A field is read back at the end of its line. -/
theorem readValue?_write {field : Field} (hfits : field.Fits) :
    readValue? (nesting + 1) (field.write ++ '\n' :: rest) =
      some (field.value, '\n' :: rest) := by
  cases field with
  | string content => exact readValue?_writeString _ content (by decide) rest
  | number value => exact readValue?_toDigits hfits
  | boolean state => cases state <;> rfl
  | strings items => exact readValue?_write_strings items

/-! ## Lines -/

/-- A field does not start with blank space. -/
theorem Field.write_cons (field : Field) :
    ∃ first others, field.write = first :: others ∧ isBlank first = false := by
  cases field with
  | string content =>
      obtain ⟨first, others, hfirst, rfl | rfl⟩ := writeString_cons content
      all_goals exact ⟨_, others, hfirst, rfl⟩
  | number value =>
      obtain ⟨first, others, hfirst, hdigit⟩ := toDigits_cons value
      have hspace : first ≠ ' ' := ne_of_test hdigit rfl
      have htab : first ≠ '\t' := ne_of_test hdigit rfl
      exact ⟨first, others, hfirst, by simp [isBlank, hspace, htab]⟩
  | boolean state => cases state <;> exact ⟨_, _, rfl, rfl⟩
  | strings items =>
      cases items with
      | nil => exact ⟨'[', _, rfl, rfl⟩
      | cons item others => cases others <;> exact ⟨'[', _, rfl, rfl⟩

namespace Line

/-- The path of a line. -/
def path {α : Type} : Line α → List String
  | .entry path _ | .table path | .element path => path

/-- The number that a line holds, if any, is not too large to be read. -/
def Fits : Line Field → Prop
  | .entry _ field => field.Fits
  | .table _ | .element _ => True

end Line

/-- A path in a header is read back. -/
theorem readPath?_header {path : List String} (hpath : path ≠ []) (rest : List Char) :
    readPath? (skipBlanks (writePath path ++ ']' :: rest)) = some (path, ']' :: rest) := by
  obtain ⟨first, others, hfirst, hstart⟩ := writePath_cons hpath
  have hblank : skipBlanks (writePath path ++ ']' :: rest) = writePath path ++ ']' :: rest := by
    rw [hfirst, List.cons_append]
    exact skipBlanks_cons hstart.startsPart.1
  rw [hblank]
  exact readPath?_writePath hpath (by decide) rfl nofun

/-- An entry is read back up to the end of its line. -/
theorem readPair?_write {path : List String} (hpath : path ≠ []) {field : Field}
    (hfits : field.Fits) (nesting : Nat) (rest : List Char) :
    readPair? (readValue? (nesting + 1))
        (writePath path ++ ' ' :: '=' :: ' ' :: (field.write ++ '\n' :: rest)) =
      some ((path, field.value), '\n' :: rest) := by
  obtain ⟨first, others, hfirst, hblank⟩ := field.write_cons
  have hvalue : skipBlanks (' ' :: (field.write ++ '\n' :: rest)) =
      field.write ++ '\n' :: rest := by
    show skipBlanks (field.write ++ '\n' :: rest) = _
    rw [hfirst, List.cons_append, skipBlanks_cons hblank]
  have hkeys : readPath? (writePath path ++ ' ' :: '=' :: ' ' :: (field.write ++ '\n' :: rest)) =
      some (path, '=' :: ' ' :: (field.write ++ '\n' :: rest)) :=
    readPath?_writePath hpath (by decide) rfl nofun
  rw [readPair?, hkeys]
  simp only [Option.bind_eq_bind, Option.bind_some, after?, if_true, hvalue, readValue?_write hfits]
  rfl

/-- A text that does not start with a bracket is an entry. -/
theorem readLine?_cons (hbracket : c ≠ '[') :
    readLine? (c :: rest) = do
      let ((path, value), rest) ← readPair? (readValue? maxNesting) (c :: rest)
      return (.entry path value, rest) := by
  rw [readLine?.eq_def]
  grind

/-- Where a line starts, nothing but a line break is skipped, and the line is read back up to its
end. -/
theorem readLine?_write {line : Line Field} (hpath : line.path ≠ []) (hfits : line.Fits)
    (rest : List Char) :
    ∃ first others, skipTrivia? false (line.write ++ rest) = some (first :: others) ∧
      readLine? (first :: others) = some (line.map Field.value, '\n' :: rest) := by
  cases line with
  | entry path field =>
      replace hpath : path ≠ [] := hpath
      obtain ⟨first, others, hfirst, hstart⟩ := writePath_cons hpath
      have hpair := readPair?_write hpath hfits 79 rest
      have hwrite : (Line.entry path field).write ++ rest =
          first :: (others ++ ' ' :: '=' :: ' ' :: (field.write ++ '\n' :: rest)) := by
        simp [Line.write, hfirst]
      rw [hfirst, List.cons_append] at hpair
      refine ⟨_, _, by rw [hwrite, skipTrivia?_cons hstart.startsPart], ?_⟩
      rw [readLine?_cons hstart.ne_bracket, maxNesting, hpair]
      rfl
  | table path =>
      replace hpath : path ≠ [] := hpath
      obtain ⟨first, others, hfirst, hstart⟩ := writePath_cons hpath
      have hheader := readPath?_header hpath ('\n' :: rest)
      have hwrite : (Line.table path).write ++ rest =
          '\n' :: '[' :: (writePath path ++ ']' :: '\n' :: rest) := by
        simp [Line.write]
      refine ⟨'[', writePath path ++ ']' :: '\n' :: rest, ?_, ?_⟩
      · rw [hwrite, skipTrivia?, skipTrivia?_cons (by decide)]
      · rw [hfirst, List.cons_append] at hheader ⊢
        rw [readLine?.eq_2 _ fun more hmore => hstart.ne_bracket (List.cons.inj hmore).1, hheader]
        rfl
  | element path =>
      replace hpath : path ≠ [] := hpath
      have hheader := readPath?_header hpath (']' :: '\n' :: rest)
      have hwrite : (Line.element path).write ++ rest =
          '\n' :: '[' :: '[' :: (writePath path ++ ']' :: ']' :: '\n' :: rest) := by
        simp [Line.write]
      refine ⟨'[', '[' :: (writePath path ++ ']' :: ']' :: '\n' :: rest), ?_, ?_⟩
      · rw [hwrite, skipTrivia?, skipTrivia?_cons (by decide)]
      · rw [readLine?, hheader]
        rfl

/-! ## Documents -/

/-- Lines are read back. -/
theorem readLines?_write {lines : List (Line Field)} (hpaths : ∀ line ∈ lines, line.path ≠ [])
    (hfits : ∀ line ∈ lines, line.Fits) {most : Nat} (hmost : lines.length < most) :
    readLines? most (lines.flatMap Line.write) = some (lines.map (Line.map Field.value)) := by
  induction lines generalizing most with
  | nil =>
      obtain ⟨spare, rfl⟩ := Nat.exists_eq_add_of_lt hmost
      rfl
  | cons line lines ih =>
      obtain ⟨spare, rfl⟩ := Nat.exists_eq_add_of_lt hmost
      obtain ⟨hpath, hothers⟩ := List.forall_mem_cons.1 hpaths
      obtain ⟨hfirst, hlater⟩ := List.forall_mem_cons.1 hfits
      have hrest := ih hothers hlater (Nat.lt_of_succ_lt_succ hmost)
      obtain ⟨first, others, hskip, hline⟩ :=
        readLine?_write hpath hfirst (lines.flatMap Line.write)
      rw [readLines?, List.flatMap_cons, hskip]
      simp only [Option.bind_eq_bind, Option.bind_some, List.isEmpty_cons, Bool.false_eq_true,
        if_false, hline, afterLine?_break, hrest]
      rfl

/-- A line starts with a line break or with a key. -/
theorem Line.write_cons (line : Line Field) (hpath : line.path ≠ []) :
    ∃ first others, line.write = first :: others ∧ (first = '\n' ∨ StartsKey first) := by
  cases line with
  | entry path field =>
      obtain ⟨first, others, hfirst, hstart⟩ := writePath_cons (show path ≠ [] from hpath)
      refine ⟨first, others ++ [' ', '=', ' '] ++ field.write ++ ['\n'], ?_, .inr hstart⟩
      rw [Line.write, hfirst]
      rfl
  | table path => exact ⟨'\n', _, rfl, .inl rfl⟩
  | element path => exact ⟨'\n', _, rfl, .inl rfl⟩

/-- Lines are no more than there are characters. -/
theorem length_le_length_write (lines : List (Line Field))
    (hpaths : ∀ line ∈ lines, line.path ≠ []) :
    lines.length ≤ (lines.flatMap Line.write).length := by
  induction lines with
  | nil => exact Nat.le_refl _
  | cons line lines ih =>
      obtain ⟨hpath, hothers⟩ := List.forall_mem_cons.1 hpaths
      obtain ⟨first, others, hfirst, -⟩ := line.write_cons hpath
      have hlength := ih hothers
      simp only [List.flatMap_cons, hfirst, List.length_append, List.length_cons]
      omega

/-- A document does not start with a byte order mark. -/
theorem flatMap_write_ne_mark (lines : List (Line Field))
    (hpaths : ∀ line ∈ lines, line.path ≠ []) :
    lines.flatMap Line.write ≠ '\ufeff' :: rest := by
  intro hmark
  cases lines with
  | nil => cases hmark
  | cons line lines =>
      obtain ⟨first, others, hfirst, hstart⟩ := line.write_cons (hpaths line List.mem_cons_self)
      rw [List.flatMap_cons, hfirst, List.cons_append] at hmark
      obtain rfl := (List.cons.inj hmark).1
      obtain hbreak | hkey | hquote | hquote := hstart
      · cases hbreak
      · cases hkey
      · cases hquote
      · cases hquote

/-- A document is read back as what its lines mean. -/
theorem read?_write {lines : List (Line Field)} (hpaths : ∀ line ∈ lines, line.path ≠ [])
    (hfits : ∀ line ∈ lines, line.Fits) :
    read? (write lines) = Document.meaning? (lines.map (Line.map Field.value)) := by
  have hmost := Nat.lt_succ_of_le (length_le_length_write lines hpaths)
  have hread : read? (write lines) = (readLines? ((lines.flatMap Line.write).length + 1)
      (lines.flatMap Line.write)).bind Document.meaning? := by
    rw [read?, write, String.toList_ofList]
    split
    · next rest hmark => exact absurd hmark (flatMap_write_ne_mark lines hpaths)
    · rfl
  rw [hread, readLines?_write hpaths hfits hmost]
  rfl

end TokenTree.Toml
