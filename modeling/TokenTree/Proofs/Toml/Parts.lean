import Mathlib.Data.List.TakeDrop
import TokenTree.Proofs.Toml.Strings
import TokenTree.Toml.Reader

/-!
# Keys and words read back

A key is read back up to a character that cannot stand in it, and a path of keys up to what follows
the blank space after it. A word is told from what follows it in the same way, and the numeral of a
number is read as the number, if that takes no more than 128 bits.
-/

namespace TokenTree.Toml

open Style

variable {c next : Char} {rest text after : List Char}

/-! ## Between the parts -/

/-- No blank space is skipped where there is none. -/
theorem skipBlanks_cons (hblank : isBlank c = false) : skipBlanks (c :: rest) = c :: rest := by
  simp [skipBlanks, hblank]

/-- The first character of a part: blank space, a line break or a comment does not start with it. -/
def StartsPart (c : Char) : Prop := isBlank c = false ∧ c ≠ '\n' ∧ c ≠ '\r' ∧ c ≠ '#'

instance : Decidable (StartsPart c) := inferInstanceAs (Decidable (_ ∧ _))

/-- Nothing is skipped before a part. -/
theorem skipTrivia?_cons (hpart : StartsPart c) :
    skipTrivia? false (c :: rest) = some (c :: rest) := by
  obtain ⟨hblank, hbreak, hreturn, hcomment⟩ := hpart
  rw [skipTrivia?.eq_def]
  grind

/-- Blank space before anything is skipped. -/
theorem skipTrivia?_blank (hblank : isBlank c = true) :
    skipTrivia? false (c :: rest) = skipTrivia? false rest := by
  rw [skipTrivia?.eq_def]
  grind [isBlank]

/-- A line break ends a line. -/
theorem afterLine?_break : afterLine? ('\n' :: rest) = some rest := by
  rw [afterLine?, skipBlanks_cons rfl]
  rfl

/-! ## Keys -/

/-- The first character of a written key. -/
def StartsKey (c : Char) : Prop := isKeyChar c = true ∨ c = '"' ∨ c = '\''

/-- A key is written on one line. -/
theorem lines_ofKey (content : List Char) : (ofKey content).lines = false := by
  simp only [ofKey, List.find?_cons, List.find?_nil]
  split
  · rfl
  · split <;> rfl

/-- A key is written as a run of key characters or as a string on one line. -/
theorem writeKey_cases (key : String) :
    (writeKey key = key.toList ∧ key.toList ≠ [] ∧ ∀ c ∈ key.toList, isKeyChar c = true) ∨
      ∃ style : Style, style.lines = false ∧ style.Carries 0 key.toList ∧
        writeKey key = style.write key.toList := by
  rw [writeKey]
  split
  · next hbare =>
      rw [Bool.and_eq_true, List.all_eq_true] at hbare
      exact .inl ⟨rfl, by simpa using hbare.1, hbare.2⟩
  · exact .inr ⟨ofKey key.toList, lines_ofKey key.toList, carries_getD rfl, rfl⟩

/-- A key starts with a key character or a quote. -/
theorem writeKey_cons (key : String) :
    ∃ first others, writeKey key = first :: others ∧ StartsKey first := by
  obtain ⟨hbare, hnonempty, hall⟩ | ⟨style, -, -, hquoted⟩ := writeKey_cases key
  · obtain ⟨first, others, hkey⟩ := List.exists_cons_of_ne_nil hnonempty
    exact ⟨first, others, hbare.trans hkey, .inl (hall first (hkey ▸ List.mem_cons_self))⟩
  · obtain ⟨others, hothers⟩ := write_cons style key.toList
    exact ⟨style.quote, others, hquoted.trans hothers, .inr (quote_eq style)⟩

/-- A run of key characters ends before any other character. -/
theorem span_isKeyChar (hall : ∀ c ∈ text, isKeyChar c = true) (hnext : isKeyChar next = false) :
    (text ++ next :: rest).span isKeyChar = (text, next :: rest) := by
  rw [List.span_eq_takeWhile_dropWhile, List.takeWhile_append_of_pos hall,
    List.dropWhile_append_of_pos hall]
  simp [hnext]

/-- No string starts with a character that is not a quote. -/
theorem startString?_eq_none (hclear : IsClear c) : startString? (c :: rest) = none := by
  obtain ⟨hdouble, hsingle⟩ := hclear
  rw [startString?.eq_def]
  grind

/-- Characters that a test tells apart are different. -/
theorem ne_of_test {test : Char → Bool} (hc : test c = true) (hnext : test next = false) :
    c ≠ next := by
  rintro rfl
  exact Bool.false_ne_true (hnext.symm.trans hc)

/-- A character that ends a key. -/
def EndsKey (c : Char) : Prop := IsClear c ∧ isKeyChar c = false

instance : Decidable (EndsKey c) := inferInstanceAs (Decidable (_ ∧ _))

/-- A key is read back. -/
theorem readKey?_writeKey (key : String) (hnext : EndsKey next) :
    readKey? (writeKey key ++ next :: rest) = some (key, next :: rest) := by
  obtain ⟨hclear, hstop⟩ := hnext
  obtain ⟨hbare, hnonempty, hall⟩ | ⟨style, hlines, hcarries, hquoted⟩ := writeKey_cases key
  · obtain ⟨first, others, hkey⟩ := List.exists_cons_of_ne_nil hnonempty
    have hfirst : IsClear first := by
      have hfirst := hall first (hkey ▸ List.mem_cons_self)
      exact ⟨ne_of_test hfirst rfl, ne_of_test hfirst rfl⟩
    have hstring : startString? (key.toList ++ next :: rest) = none := by
      rw [hkey]
      exact startString?_eq_none hfirst
    rw [hbare, readKey?, hstring, span_isKeyChar hall hstop]
    simp [hnonempty]
  · have hquote := hclear.ne_quote style
    rw [hquoted, readKey?, startString?_write hcarries hquote]
    simp only [hlines, Bool.false_eq_true, if_false]
    rw [read?_writeFrom hcarries style.width_pos hquote]
    simp

/-- A key starts a part. -/
theorem StartsKey.startsPart (hstart : StartsKey c) : StartsPart c := by
  obtain hkey | rfl | rfl := hstart
  · have hspace : c ≠ ' ' := ne_of_test hkey rfl
    have htab : c ≠ '\t' := ne_of_test hkey rfl
    exact ⟨by simp [isBlank, hspace, htab], ne_of_test hkey rfl, ne_of_test hkey rfl,
      ne_of_test hkey rfl⟩
  · decide
  · decide

/-- A key does not start with a bracket. -/
theorem StartsKey.ne_bracket (hstart : StartsKey c) : c ≠ '[' := by
  obtain hkey | rfl | rfl := hstart
  · exact ne_of_test hkey rfl
  · decide
  · decide

/-- A path starts with a key character or a quote. -/
theorem writePath_cons {path : List String} (hpath : path ≠ []) :
    ∃ first others, writePath path = first :: others ∧ StartsKey first := by
  obtain ⟨key, path, rfl⟩ := List.exists_cons_of_ne_nil hpath
  obtain ⟨first, others, hkey, hfirst⟩ := writeKey_cons key
  cases path with
  | nil => exact ⟨first, others, hkey, hfirst⟩
  | cons second path =>
      refine ⟨first, others ++ '.' :: writePath (second :: path), ?_, hfirst⟩
      rw [writePath, hkey]
      rfl

/-- A path has no more keys than characters. -/
theorem length_le_length_writePath (path : List String) :
    path.length ≤ (writePath path).length := by
  fun_induction writePath path with
  | case1 => exact Nat.le_refl _
  | case2 key =>
      obtain ⟨first, others, hkey, -⟩ := writeKey_cons key
      simp [hkey]
  | case3 key next path ih =>
      simp only [List.length_append, List.length_cons] at ih ⊢
      omega

/-- A path is read back, with the blank space after it. -/
theorem readKeys?_writePath {path : List String} (hpath : path ≠ []) {most : Nat}
    (hmost : path.length ≤ most) (hnext : EndsKey next) (hafter : skipBlanks (next :: rest) = after)
    (hpoint : after.head? ≠ some '.') :
    readKeys? most (writePath path ++ next :: rest) = some (path, after) := by
  fun_induction writePath path generalizing most with
  | case1 => exact absurd rfl hpath
  | case2 key =>
      obtain ⟨spare, rfl⟩ := Nat.exists_eq_add_of_lt hmost
      rw [readKeys?, readKey?_writeKey key hnext]
      simp only [Option.bind_eq_bind, Option.bind_some, hafter]
      split
      · exact absurd rfl hpoint
      · rfl
  | case3 key second path ih =>
      obtain ⟨spare, rfl⟩ := Nat.exists_eq_add_of_lt hmost
      obtain ⟨first, others, hsecond, hfirst⟩ := writePath_cons (List.cons_ne_nil second path)
      have hblank : skipBlanks (writePath (second :: path) ++ next :: rest) =
          writePath (second :: path) ++ next :: rest := by
        rw [hsecond, List.cons_append]
        exact skipBlanks_cons hfirst.startsPart.1
      rw [List.append_assoc, List.cons_append, readKeys?, readKey?_writeKey key (by decide)]
      simp only [Option.bind_eq_bind, Option.bind_some]
      rw [skipBlanks_cons (by decide)]
      simp only [hblank, ih nofun (Nat.le_add_right _ spare), Option.bind_some]
      rfl

/-- A path is read back up to the end of its line or of its header. -/
theorem readPath?_writePath {path : List String} (hpath : path ≠ []) (hnext : EndsKey next)
    (hafter : skipBlanks (next :: rest) = after) (hpoint : after.head? ≠ some '.') :
    readPath? (writePath path ++ next :: rest) = some (path, after) := by
  refine readKeys?_writePath hpath ?_ hnext hafter hpoint
  rw [List.length_append]
  exact Nat.le_trans (length_le_length_writePath path) (Nat.le_add_right _ _)

/-! ## Words -/

/-- A character that ends a word. -/
def EndsWord (c : Char) : Prop := isWordChar c = false ∧ c ≠ ' '

instance : Decidable (EndsWord c) := inferInstanceAs (Decidable (_ ∧ _))

/-- A word is told from what follows it. -/
theorem splitWord_append (hall : ∀ c ∈ text, isWordChar c = true) (hnext : EndsWord next) :
    splitWord (text ++ next :: rest) = (text, next :: rest) := by
  obtain ⟨hstop, hspace⟩ := hnext
  have hspan : (text ++ next :: rest).span isWordChar = (text, next :: rest) := by
    rw [List.span_eq_takeWhile_dropWhile, List.takeWhile_append_of_pos hall,
      List.dropWhile_append_of_pos hall]
    simp [hstop]
  rw [splitWord, hspan]
  simp [hspace]

/-- A word is read as what it denotes. -/
theorem readWord?_append (hall : ∀ c ∈ text, isWordChar c = true) (hnext : EndsWord next)
    (rest : List Char) :
    readWord? (text ++ next :: rest) = (ofWord? text).map (·, next :: rest) := by
  rw [readWord?, splitWord_append hall hnext]

/-- Digits without underscores between them. -/
theorem digits?_of_all {isDigit : Char → Bool} (hunderscore : isDigit '_' = false)
    (hnonempty : text ≠ []) (hall : ∀ c ∈ text, isDigit c = true) :
    digits? isDigit text = some text := by
  fun_induction digits? isDigit text <;> grind

/-- A numeral is made of digits. -/
theorem isDigit_of_mem_toDigits {number : Nat} (hc : c ∈ Nat.toDigits 10 number) :
    c.isDigit = true :=
  Nat.isDigit_of_mem_toDigits (by decide) (by decide) hc

/-- A numeral holds nothing but digits. -/
theorem not_mem_toDigits (number : Nat) (hc : c.isDigit = false) : c ∉ Nat.toDigits 10 number :=
  fun hmem => ne_of_test (isDigit_of_mem_toDigits hmem) hc rfl

/-- A numeral starts with a digit. -/
theorem toDigits_cons (number : Nat) :
    ∃ first others, Nat.toDigits 10 number = first :: others ∧ first.isDigit = true := by
  obtain ⟨first, others, hfirst⟩ := List.exists_cons_of_ne_nil
    (Nat.toDigits_ne_nil (n := number) (b := 10))
  exact ⟨first, others, hfirst, isDigit_of_mem_toDigits (hfirst ▸ List.mem_cons_self)⟩

/-- The numeral of a number other than zero does not start with a zero. -/
theorem head?_toDigits {number : Nat} (hnumber : 0 < number) :
    (Nat.toDigits 10 number).head? ≠ some '0' := by
  induction number using Nat.strongRecOn with
  | ind number ih =>
      obtain hsmall | hlarge := Nat.lt_or_ge number 10
      · have hdigits : ∀ number < 10, 0 < number → Nat.digitChar number ≠ '0' := by decide
        rw [Nat.toDigits_of_lt_base hsmall]
        simpa using hdigits number hsmall hnumber
      · have hfront := ih (number / 10) (by omega) (by omega)
        obtain ⟨first, others, hfirst, -⟩ := toDigits_cons (number / 10)
        rw [Nat.toDigits_of_base_le (by decide) hlarge]
        rw [hfirst] at hfront ⊢
        exact hfront

/-- A numeral is decimal. -/
theorem decimal?_toDigits (number : Nat) :
    decimal? (Nat.toDigits 10 number) = some (Nat.toDigits 10 number) := by
  rw [decimal?, digits?_of_all rfl Nat.toDigits_ne_nil fun _ => isDigit_of_mem_toDigits]
  refine Option.filter_eq_some_iff.2 ⟨rfl, ?_⟩
  obtain rfl | hnumber := Nat.eq_zero_or_pos number
  · rfl
  · simp [head?_toDigits hnumber]

/-- The decimal numeral of a number denotes it. -/
theorem whole?_toDigits (number : Nat) : whole? (Nat.toDigits 10 number) = some (number : Int) := by
  have hvalue : Text.ofDigits (Nat.toDigits 10 number) = number := Nat.ofDigitChars_ten_toDigits
  have hsign : sign (Nat.toDigits 10 number) = (false, Nat.toDigits 10 number) := by
    rw [sign.eq_def]
    split
    · next htext => exact absurd (htext ▸ List.mem_cons_self) (not_mem_toDigits number rfl)
    · next htext => exact absurd (htext ▸ List.mem_cons_self) (not_mem_toDigits number rfl)
    · rfl
  have hbase {base : Char} (rest : List Char) (hletter : base.isDigit = false) :
      Nat.toDigits 10 number ≠ '0' :: base :: rest := by
    intro htext
    exact not_mem_toDigits number hletter (htext ▸ List.mem_cons_of_mem _ List.mem_cons_self)
  rw [whole?.eq_def]
  split
  · next rest htext => exact absurd htext (hbase rest rfl)
  · next rest htext => exact absurd htext (hbase rest rfl)
  · next rest htext => exact absurd htext (hbase rest rfl)
  · simp [hsign, decimal?_toDigits, hvalue]

/-- The numeral of a number that is not too large has its value. -/
theorem ofWord?_toDigits {number : Nat} (hfits : (number : Int) ≤ maxWhole) :
    ofWord? (Nat.toDigits 10 number) = some (.integer number) := by
  have hne {word : List Char} (letter : Char) (hletter : letter.isDigit = false)
      (hmem : letter ∈ word) : Nat.toDigits 10 number ≠ word := by
    rintro rfl
    exact not_mem_toDigits number hletter hmem
  have hmin : minWhole ≤ (number : Int) := Int.le_trans (by decide) (Int.natCast_nonneg number)
  rw [ofWord?, if_neg (hne 't' rfl (by decide)), if_neg (hne 'f' rfl (by decide)), whole?_toDigits]
  exact if_pos ⟨hmin, hfits⟩

end TokenTree.Toml
