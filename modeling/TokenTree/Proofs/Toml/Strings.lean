import Mathlib.Tactic.SplitIfs
import TokenTree.Toml.Writer

/-!
# Strings read back

A string is read back as it was written, in every style that it is written in. What is written for
one character is one of three forms (`Style.Writes`), each of which takes a few moves to read.
Quotes before it may still turn out to belong to the content; that is why reading and writing are
compared after a number of quotes, by induction on the content.
-/

namespace TokenTree.Toml

variable {style : Style} {quotes : Nat} {c next : Char} {content written rest : List Char}

namespace Style

/-! ## One character -/

/-- The forms in which a character stands in a string. -/
inductive Writes (style : Style) (c : Char) : List Char → Prop where
  | plain (hvisible : isVisible c ∨ style.lines ∧ c = '\n') (hquote : c ≠ style.quote)
      (hbackslash : style.escapes → c ≠ '\\') : Writes style c [c]
  | letter {letter : Char} (hescapes : style.escapes) (hletter : escaped? letter = some c) :
      Writes style c ['\\', letter]
  | code {high low : Char} (hescapes : style.escapes) (hhigh : hexValue? high = some (c.toNat / 16))
      (hlow : hexValue? low = some (c.toNat % 16)) : Writes style c ['\\', 'u', '0', '0', high, low]

/-- A hexadecimal digit in capital letters has its value. -/
theorem hexValue?_toUpper_digitChar {number : Nat} (hnumber : number < 16) :
    hexValue? (Nat.digitChar number).toUpper = some number := by
  have hdigits : ∀ number < 16, hexValue? (Nat.digitChar number).toUpper = some number := by decide
  exact hdigits number hnumber

/-- Control characters have small codes. -/
theorem toNat_lt_of_not_isVisible (hcontrol : ¬ isVisible c) : c.toNat < 128 := by
  rw [isVisible, Bool.and_eq_true, Classical.not_and_iff_not_or_not, decide_eq_true_iff,
    decide_eq_true_iff, Char.not_le, Decidable.not_not] at hcontrol
  obtain hlow | rfl := hcontrol
  · have hlt : c.toNat < 32 := hlow
    omega
  · decide

/-- A character is written in one of the forms, as long as the style shows it where it has no
escapes. -/
theorem writes_writeChar
    (hshown : style.escapes = false → (isVisible c ∨ style.lines ∧ c = '\n') ∧ c ≠ style.quote) :
    style.Writes c (style.writeChar c) := by
  obtain ⟨escapes, lines⟩ := style
  cases escapes with
  | false =>
      obtain ⟨hvisible, hquote⟩ := hshown rfl
      exact .plain hvisible hquote nofun
  | true =>
      simp only [writeChar, Bool.not_true, Bool.false_eq_true, if_false]
      split_ifs with hback htab hbreak hlines hfeed hreturn hescaped hvisible
      · exact .letter rfl (hback ▸ rfl)
      · exact .letter rfl (htab ▸ rfl)
      · subst hbreak
        exact .plain (.inr ⟨hlines, rfl⟩) (show '\n' ≠ '"' by decide) fun _ => by decide
      · exact .letter rfl (hbreak ▸ rfl)
      · exact .letter rfl (hfeed ▸ rfl)
      · exact .letter rfl (hreturn ▸ rfl)
      · obtain rfl | rfl := hescaped <;> exact .letter rfl rfl
      · obtain ⟨hquote, hbackslash⟩ := not_or.1 hescaped
        exact .plain (.inl hvisible) hquote fun _ => hbackslash
      · have hsmall := toNat_lt_of_not_isVisible hvisible
        exact .code rfl (hexValue?_toUpper_digitChar (by omega))
          (hexValue?_toUpper_digitChar (Nat.mod_lt _ (by decide)))

/-- No form starts with a quote, and only a line break itself starts with one. -/
theorem Writes.head (hwrites : style.Writes c written) :
    ∃ first others, written = first :: others ∧ first ≠ style.quote ∧ first ≠ '\r' ∧
      (first = '\n' → c = '\n') := by
  cases hwrites with
  | plain hvisible hquote =>
      refine ⟨c, [], rfl, hquote, ?_, id⟩
      rintro rfl
      simp [isVisible] at hvisible
  | letter hescapes | code hescapes =>
      exact ⟨'\\', _, rfl, by simp [quote, hescapes], by decide, fun h => absurd h (by decide)⟩

/-! ## Reading -/

/-- A move that lets the string grow. -/
theorem read?_cons_of_grow {phase after : Phase} {more : List Char}
    (hmove : style.move? c rest.head? phase = some (.grow more after)) :
    style.read? phase (c :: rest) =
      (style.read? after rest).map fun (content, rest) => (more ++ content, rest) := by
  rw [read?.eq_def]
  cases phase <;> simp only [hmove]

/-- Quotes that do not end the string yet. -/
theorem read?_replicate (count : Nat) (hcount : quotes + count < 2 * style.width) :
    style.read? (.text quotes) (List.replicate count style.quote ++ rest) =
      style.read? (.text (quotes + count)) rest := by
  induction count generalizing quotes with
  | zero => rfl
  | succ count ih =>
      have hmove : style.move? style.quote (List.replicate count style.quote ++ rest).head?
          (.text quotes) = some (.grow [] (.text (quotes + 1))) :=
        if_pos ⟨rfl, by omega⟩
      rw [List.replicate_succ, List.cons_append, read?_cons_of_grow hmove, ih (by omega)]
      simp [Nat.add_assoc, Nat.add_comm 1]

/-- A backslash starts an escape. -/
theorem move?_backslash (hescapes : style.escapes) (hquotes : quotes < style.width)
    (next : Option Char) :
    style.move? '\\' next (.text quotes) =
      some (.grow (List.replicate quotes style.quote) .escape) := by
  have hquote : ¬ '\\' = style.quote := by simp [quote, hescapes]
  simp [move?, textMove?, hquote, finish?, Nat.not_le.2 hquotes, hescapes]

/-- A character in one of its forms. -/
theorem read?_writes (hquotes : quotes < style.width) (hwrites : style.Writes c written) :
    style.read? (.text quotes) (written ++ rest) =
      (style.read? (.text 0) rest).map fun (more, rest) =>
        (List.replicate quotes style.quote ++ c :: more, rest) := by
  have hunfinished : style.finish? quotes = none := if_neg (Nat.not_le.2 hquotes)
  cases hwrites with
  | plain hvisible hquote hbackslash =>
      have hmove : style.move? c rest.head? (.text quotes) =
          some (.grow (List.replicate quotes style.quote ++ [c]) (.text 0)) := by
        have hshown : isVisible c ∨ c = '\t' ∨
            style.lines ∧ (c = '\n' ∨ c = '\r' ∧ rest.head? = some '\n') :=
          hvisible.imp_right fun hbreak => .inr ⟨hbreak.1, .inl hbreak.2⟩
        have hescape : ¬ (style.escapes ∧ c = '\\') := fun h => hbackslash h.1 h.2
        simp only [move?, textMove?, hquote, false_and, if_false, hunfinished, hescape, hshown,
          if_true]
      rw [List.singleton_append, read?_cons_of_grow hmove]
      simp
  | @letter letter hescapes hletter =>
      have hbackslash := style.move?_backslash hescapes hquotes (letter :: rest).head?
      have hmove : style.move? letter rest.head? .escape = some (.grow [c] (.text 0)) := by
        simp only [move?, hletter]
      rw [List.cons_append, List.singleton_append, read?_cons_of_grow hbackslash,
        read?_cons_of_grow hmove]
      simp [Option.map_map, Function.comp_def]
  | @code high low hescapes hhigh hlow =>
      have hbackslash := style.move?_backslash hescapes hquotes
        ('u' :: '0' :: '0' :: high :: low :: rest).head?
      have hsize : style.move? 'u' ('0' :: '0' :: high :: low :: rest).head? .escape =
          some (.grow [] (.code 4 0)) := rfl
      have hfirst : style.move? '0' ('0' :: high :: low :: rest).head? (.code 4 0) =
          some (.grow [] (.code 3 0)) := rfl
      have hsecond : style.move? '0' (high :: low :: rest).head? (.code 3 0) =
          some (.grow [] (.code 2 0)) := rfl
      have hthird : style.move? high (low :: rest).head? (.code 2 0) =
          some (.grow [] (.code 1 (c.toNat / 16))) := by simp [move?, hhigh]
      have hlast : style.move? low rest.head? (.code 1 (c.toNat / 16)) =
          some (.grow [c] (.text 0)) := by
        have hvalid : c.toNat.isValidChar := c.valid
        simp only [move?, hlow, Option.bind_eq_bind, Option.bind_some, Nat.div_add_mod,
          Nat.lt_irrefl, if_false, if_pos hvalid, Char.ofNat_toNat, Option.pure_def]
      simp only [List.cons_append, List.nil_append]
      rw [read?_cons_of_grow hbackslash, read?_cons_of_grow hsize, read?_cons_of_grow hfirst,
        read?_cons_of_grow hsecond, read?_cons_of_grow hthird, read?_cons_of_grow hlast]
      simp [Option.map_map, Function.comp_def]

/-! ## The content -/

/-- The style can write the content after so many quotes: it has escapes, or it shows the content.
-/
def Carries (style : Style) (quotes : Nat) (content : List Char) : Prop :=
  style.escapes = false → (∀ c ∈ content, isVisible c ∨ style.lines ∧ c = '\n') ∧
    runsBelow style.quote style.width quotes content

/-- A quote that is left as it is adds to the quotes before the rest. -/
theorem Carries.of_quote (hcarries : style.Carries quotes (style.quote :: content)) :
    style.Carries (quotes + 1) content := by
  intro hescapes
  obtain ⟨hshown, hruns⟩ := hcarries hescapes
  simp only [runsBelow, if_true, Bool.and_eq_true] at hruns
  exact ⟨(List.forall_mem_cons.1 hshown).2, hruns.2⟩

/-- After any other character there are no quotes before the rest. -/
theorem Carries.of_other (hcarries : style.Carries quotes (c :: content))
    (hother : ¬ (c = style.quote ∧ quotes + 1 < style.width)) :
    style.Writes c (style.writeChar c) ∧ style.Carries 0 content := by
  have hquote (hescapes : style.escapes = false) : c ≠ style.quote := by
    rintro rfl
    obtain ⟨-, hruns⟩ := hcarries hescapes
    simp only [runsBelow, if_true, Bool.and_eq_true, decide_eq_true_eq] at hruns
    exact hother ⟨rfl, hruns.1⟩
  refine ⟨writes_writeChar fun hescapes => ?_, fun hescapes => ?_⟩
  · exact ⟨(hcarries hescapes).1 c List.mem_cons_self, hquote hescapes⟩
  · obtain ⟨hshown, hruns⟩ := hcarries hescapes
    rw [runsBelow, if_neg (hquote hescapes)] at hruns
    exact ⟨(List.forall_mem_cons.1 hshown).2, hruns⟩

/-- A content is read back, with the quotes before it, up to its end. -/
theorem read?_writeFrom (hcarries : style.Carries quotes content) (hquotes : quotes < style.width)
    (hnext : next ≠ style.quote) :
    style.read? (.text quotes) (style.writeFrom quotes content ++ style.delimiter ++ next :: rest) =
      some (List.replicate quotes style.quote ++ content, next :: rest) := by
  -- Quotes that are left as they are wait in the phase: they are given out with the next character,
  -- or with the quotes at the end.
  induction content generalizing quotes with
  | nil =>
      have hmove : style.move? next rest.head? (.text (quotes + style.width)) =
          some (.finish (List.replicate quotes style.quote)) := by
        simp [move?, textMove?, hnext, finish?]
      rw [writeFrom, List.nil_append, delimiter, read?_replicate style.width (by omega),
        read?.eq_def]
      simp only [hmove, List.append_nil]
  | cons c content ih =>
      by_cases hquote : c = style.quote ∧ quotes + 1 < style.width
      · obtain ⟨rfl, hlt⟩ := hquote
        rw [writeFrom, if_pos ⟨rfl, hlt⟩]
        refine (read?_replicate 1 (show quotes + 1 < 2 * style.width by omega)).trans ?_
        refine (ih hcarries.of_quote hlt).trans ?_
        simp [List.replicate_succ']
      · obtain ⟨hwrites, hrest⟩ := hcarries.of_other hquote
        have hwidth : 0 < style.width := by omega
        rw [writeFrom, if_neg hquote, List.append_assoc, List.append_assoc,
          read?_writes hquotes hwrites, ← List.append_assoc, ih hrest hwidth]
        rfl

/-! ## The start -/

/-- The content starts with a quote only after fewer quotes than end the string. -/
theorem writeFrom_cons_head (hcarries : style.Carries quotes (c :: content)) :
    ∃ first others, style.writeFrom quotes (c :: content) = first :: others ∧ first ≠ '\r' ∧
      (first = style.quote → quotes + 1 < style.width) ∧ (first = '\n' → c = '\n') := by
  by_cases hquote : c = style.quote ∧ quotes + 1 < style.width
  · obtain ⟨rfl, hlt⟩ := hquote
    refine ⟨style.quote, _, by rw [writeFrom, if_pos ⟨rfl, hlt⟩], ?_, fun _ => hlt, id⟩
    cases hescapes : style.escapes <;> simp [quote, hescapes]
  · obtain ⟨hwrites, -⟩ := hcarries.of_other hquote
    obtain ⟨first, others, hwritten, hfirst, hreturn, hbreak⟩ := hwrites.head
    refine ⟨first, others ++ style.writeFrom 0 content, ?_, hreturn,
      fun hquote => absurd hquote hfirst, hbreak⟩
    rw [writeFrom, if_neg hquote, hwritten, List.cons_append]

/-- One quote starts a string on one line unless two more follow. -/
theorem startString?_one (hlines : style.lines = false) {text : List Char}
    (htext : ∀ more, text ≠ style.quote :: style.quote :: more) :
    startString? (style.quote :: text) = some (style, text) := by
  obtain ⟨escapes, lines⟩ := style
  cases hlines
  rw [startString?.eq_def]
  cases escapes <;> grind [quote]

/-- Three quotes start a string of several lines. -/
theorem startString?_three (hlines : style.lines = true) (text : List Char) :
    startString? (style.quote :: style.quote :: style.quote :: text) =
      some (style, startString?.dropBreak text) := by
  obtain ⟨escapes, lines⟩ := style
  cases hlines
  cases escapes <;> rfl

/-- Where no line break stands first, none is dropped. -/
theorem dropBreak_cons {text : List Char} (hbreak : c ≠ '\n') (hreturn : c ≠ '\r') :
    startString?.dropBreak (c :: text) = c :: text := by
  rw [startString?.dropBreak.eq_def]
  grind

/-- Reading starts at the content of a string on one line. -/
theorem startString?_write_of_line (hlines : style.lines = false)
    (hcarries : style.Carries 0 content) (hnext : next ≠ style.quote) :
    startString? (style.write content ++ next :: rest) =
      some (style, style.writeFrom 0 content ++ style.delimiter ++ next :: rest) := by
  have hdelimiter : style.delimiter = [style.quote] := by simp [delimiter, width, hlines]
  have hwrite : style.write content ++ next :: rest =
      style.quote :: (style.writeFrom 0 content ++ style.delimiter ++ next :: rest) := by
    simp [write, hdelimiter, hlines]
  rw [hwrite]
  refine startString?_one hlines fun more htwo => ?_
  cases content with
  | nil =>
      rw [writeFrom, hdelimiter] at htwo
      exact hnext (List.cons.inj (List.cons.inj htwo).2).1
  | cons c content =>
      obtain ⟨first, others, hfirst, -, hquote, -⟩ := writeFrom_cons_head hcarries
      rw [hfirst] at htwo
      have hlt := hquote (List.cons.inj htwo).1
      simp [width, hlines] at hlt

/-- No line break is dropped from a content without one. -/
theorem dropBreak_writeFrom (hcarries : style.Carries 0 content) (hbreak : '\n' ∉ content) :
    startString?.dropBreak (style.writeFrom 0 content ++ style.quote :: rest) =
      style.writeFrom 0 content ++ style.quote :: rest := by
  cases content with
  | nil =>
      have hquote : style.quote ≠ '\n' ∧ style.quote ≠ '\r' := by
        rw [quote]
        split <;> decide
      exact dropBreak_cons hquote.1 hquote.2
  | cons c content =>
      obtain ⟨first, others, hfirst, hreturn, -, hline⟩ := writeFrom_cons_head hcarries
      have hnone : first ≠ '\n' := fun h => hbreak (hline h ▸ List.mem_cons_self)
      rw [hfirst, List.cons_append, dropBreak_cons hnone hreturn]

/-- Reading starts at the content of a string on several lines, after the line break before it. -/
theorem startString?_write_of_lines (hlines : style.lines = true)
    (hcarries : style.Carries 0 content) :
    startString? (style.write content ++ next :: rest) =
      some (style, style.writeFrom 0 content ++ style.delimiter ++ next :: rest) := by
  have hdelimiter : style.delimiter = [style.quote, style.quote, style.quote] := by
    simp [delimiter, width, hlines]
  by_cases hbreak : '\n' ∈ content
  · have hwrite : style.write content ++ next :: rest =
        style.quote :: style.quote :: style.quote :: '\n' ::
          (style.writeFrom 0 content ++ style.delimiter ++ next :: rest) := by
      simp [write, hdelimiter, hlines, hbreak]
    rw [hwrite, startString?_three hlines]
    rfl
  · have hwrite : style.write content ++ next :: rest =
        style.quote :: style.quote :: style.quote ::
          (style.writeFrom 0 content ++ style.delimiter ++ next :: rest) := by
      simp [write, hdelimiter, hlines, hbreak]
    rw [hwrite, startString?_three hlines, hdelimiter, List.append_assoc]
    exact congrArg (fun text => some (style, text)) (dropBreak_writeFrom hcarries hbreak)

/-- Reading starts at the content of a string, in its style. -/
theorem startString?_write (hcarries : style.Carries 0 content) (hnext : next ≠ style.quote) :
    startString? (style.write content ++ next :: rest) =
      some (style, style.writeFrom 0 content ++ style.delimiter ++ next :: rest) := by
  cases hlines : style.lines with
  | false => exact startString?_write_of_line hlines hcarries hnext
  | true => exact startString?_write_of_lines hlines hcarries

/-! ## Choice of a style -/

/-- A style that shows a content can write it. -/
theorem carries_of_shows (hshows : style.shows content = true) : style.Carries 0 content := by
  intro _
  simp only [shows, Bool.and_eq_true, List.all_eq_true, Bool.or_eq_true,
    decide_eq_true_eq] at hshows
  exact ⟨hshows.1.1, hshows.2⟩

/-- A style that is the first of several to show a content, or else has escapes, can write it. -/
theorem carries_getD {styles : List Style} {otherwise : Style} (hescapes : otherwise.escapes) :
    ((styles.find? (·.shows content)).getD otherwise).Carries 0 content := by
  cases hfound : styles.find? (·.shows content) with
  | none => exact fun h => absurd (hescapes.symm.trans h) (by decide)
  | some style =>
      have hshows : style.shows content = true := by
        simpa using List.find?_some hfound
      exact carries_of_shows hshows

/-- A quote is one of two characters. -/
theorem quote_eq (style : Style) : style.quote = '"' ∨ style.quote = '\'' := by
  rw [quote]
  split
  · exact .inl rfl
  · exact .inr rfl

/-- A string starts with a quote. -/
theorem write_cons (style : Style) (content : List Char) :
    ∃ others, style.write content = style.quote :: others := by
  obtain ⟨escapes, lines⟩ := style
  cases lines <;> exact ⟨_, rfl⟩

/-- There are quotes around a string. -/
theorem width_pos (style : Style) : 0 < style.width := by
  rw [width]
  split <;> decide

end Style

open Style

/-- Neither kind of quote. -/
def IsClear (c : Char) : Prop := c ≠ '"' ∧ c ≠ '\''

instance : Decidable (IsClear c) := inferInstanceAs (Decidable (_ ∧ _))

/-- A character that is neither kind of quote is not the one of a style. -/
theorem IsClear.ne_quote (hclear : IsClear c) (style : Style) : c ≠ style.quote := by
  obtain hquote | hquote := style.quote_eq
  · rw [hquote]
    exact hclear.1
  · rw [hquote]
    exact hclear.2

/-- A string is read back. -/
theorem readString?_writeString (content : String) (hnext : IsClear next) :
    readString? (writeString content ++ next :: rest) = some (content, next :: rest) := by
  have hcarries : (ofContent content.toList).Carries 0 content.toList := carries_getD rfl
  have hquote := hnext.ne_quote (ofContent content.toList)
  rw [readString?, writeString, startString?_write hcarries hquote, Option.bind_eq_bind,
    Option.bind_some]
  simp only
  rw [read?_writeFrom hcarries (width_pos _) hquote]
  simp

end TokenTree.Toml
