import Mathlib.Data.List.Basic
import Mathlib.Tactic.SplitIfs
import TokenTree.Text.Quoted

/-!
# Quoted texts are told apart

Each character of a quoted text is written as itself or as one of two kinds of escapes
(`Escapes`), so what is written tells which character it is for and where that ends. Therefore a
quoted text tells where it ends, whatever follows it, and texts that are quoted alike are the same
(`quoted_append_inj`).
-/

namespace TokenTree.Text

variable {c other : Char} {left right rest rest' : List Char}

/-! ## Stretches -/

/-- Stretches of characters of one class are told apart where none of the class follows. -/
theorem stretch_append_inj {inside : Char → Bool} (hleft : ∀ c ∈ left, inside c)
    (hright : ∀ c ∈ right, inside c) (hrest : ∀ c ∈ rest.head?, inside c = false)
    (hrest' : ∀ c ∈ rest'.head?, inside c = false) (hsame : left ++ rest = right ++ rest') :
    left = right ∧ rest = rest' := by
  have hstretch {front after : List Char} (hfront : ∀ c ∈ front, inside c)
      (hafter : ∀ c ∈ after.head?, inside c = false) :
      (front ++ after).takeWhile inside = front := by
    rw [List.takeWhile_append_of_pos hfront]
    cases after with
    | nil => simp
    | cons next after => simp [hafter next rfl]
  have hfront : left = right := by
    rw [← hstretch hleft hrest, hsame, hstretch hright hrest']
  exact ⟨hfront, List.append_cancel_left (hfront ▸ hsame)⟩

/-- Stretches without a delimiter are told apart by the delimiters behind them. -/
theorem append_delimiter_inj {delimiter : Char} (hleft : delimiter ∉ left)
    (hright : delimiter ∉ right) (hsame : left ++ delimiter :: rest = right ++ delimiter :: rest') :
    left = right ∧ rest = rest' := by
  have hinside {front : List Char} (hfront : delimiter ∉ front) :
      ∀ c ∈ front, (c != delimiter) = true := by
    intro c hc
    exact bne_iff_ne.2 fun heq => hfront (heq ▸ hc)
  obtain ⟨hfront, hbehind⟩ :=
    stretch_append_inj (hinside hleft) (hinside hright) (by simp) (by simp) hsame
  exact ⟨hfront, List.tail_eq_of_cons_eq hbehind⟩

/-- Beginnings neither of which begins the other do not begin one text. -/
theorem append_ne_of_incomparable (hleft : ¬ left <+: right) (hright : ¬ right <+: left) :
    left ++ rest ≠ right ++ rest' := by
  intro hsame
  obtain hprefix | hprefix :=
    List.prefix_or_prefix_of_prefix (List.prefix_append left rest) ⟨rest', hsame.symm⟩
  · exact hleft hprefix
  · exact hright hprefix

/-! ## Digits -/

/-- Each digit stands for a number below the base. -/
theorem exists_digitChar_of_mem_toDigits {base number : Nat} {c : Char} (hbase : 1 < base)
    (hc : c ∈ Nat.toDigits base number) : ∃ digit, c = Nat.digitChar digit := by
  induction number using Nat.strongRecOn with
  | ind number ih =>
      rw [Nat.toDigits_eq_if hbase] at hc
      split at hc
      · exact ⟨number, List.mem_singleton.1 hc⟩
      · obtain hfront | hlast := List.mem_append.1 hc
        · exact ih (number / base) (Nat.div_lt_self (by omega) hbase) hfront
        · exact ⟨number % base, List.mem_singleton.1 hlast⟩

/-- Hexadecimal digits stand for different numbers. -/
theorem digitChar_inj {left right : Nat} (hleft : left < 16) (hright : right < 16)
    (hsame : Nat.digitChar left = Nat.digitChar right) : left = right := by
  have hall : ∀ left < 16, ∀ right < 16,
      Nat.digitChar left = Nat.digitChar right → left = right := by decide
  exact hall left hleft right hright hsame

/-- Numbers are told apart by their hexadecimal digits. -/
theorem toDigits_inj {left right : Nat} (hsame : Nat.toDigits 16 left = Nat.toDigits 16 right) :
    left = right := by
  induction left using Nat.strongRecOn generalizing right with
  | ind left ih =>
      have hlast (number : Nat) : number % 16 < 16 := Nat.mod_lt number (by decide)
      rw [Nat.toDigits_eq_if (n := left) (by decide),
        Nat.toDigits_eq_if (n := right) (by decide)] at hsame
      split_ifs at hsame with hleft hright hright
      · exact digitChar_inj hleft hright (List.singleton_inj.1 hsame)
      · simp [List.singleton_eq_append_iff] at hsame
      · simp [List.append_eq_singleton_iff] at hsame
      · obtain ⟨hfront, hdigit⟩ := List.append_inj' hsame rfl
        have hquotient := ih (left / 16) (by omega) hfront
        have hrest := digitChar_inj (hlast left) (hlast right) (List.singleton_inj.1 hdigit)
        omega

/-! ## Characters -/

/-- The character that a letter behind a backslash stands for. -/
def unescaped? : Char → Option Char
  | '"' => some '"'
  | '\\' => some '\\'
  | 'n' => some '\n'
  | 'r' => some '\r'
  | 't' => some '\t'
  | '0' => some '\x00'
  | _ => none

/-- The forms in which a character stands between double quotes. -/
inductive Escapes (c : Char) : List Char → Prop where
  | plain (hquote : c ≠ '"') (hbackslash : c ≠ '\\') : Escapes c [c]
  | letter {letter : Char} (hletter : unescaped? letter = some c) : Escapes c ['\\', letter]
  | code : Escapes c ('\\' :: 'u' :: '\x7b' :: (Nat.toDigits 16 c.toNat ++ ['\x7d']))

/-- A character is written in one of the forms. -/
theorem escapes_escapeIn (c : Char) : Escapes c (escapeIn '"' c) := by
  rw [escapeIn]
  split_ifs with hself hfeed hreturn htab hnull hplain
  · obtain rfl | rfl := hself <;> exact .letter rfl
  · exact .letter (hfeed ▸ rfl)
  · exact .letter (hreturn ▸ rfl)
  · exact .letter (htab ▸ rfl)
  · exact .letter (hnull ▸ rfl)
  · obtain ⟨hquote, hbackslash⟩ := not_or.1 hself
    exact .plain hquote hbackslash
  · exact .code

/-- No form begins with a double quote. -/
theorem Escapes.exists_cons (hescapes : Escapes c left) :
    ∃ first others, left = first :: others ∧ first ≠ '"' := by
  cases hescapes with
  | plain hquote => exact ⟨c, [], rfl, hquote⟩
  | letter | code => exact ⟨'\\', _, rfl, by decide⟩

/-- A form tells which character it is for and where it ends. -/
theorem Escapes.append_inj (hleft : Escapes c left) (hright : Escapes other right)
    (hsame : left ++ rest = right ++ rest') : c = other ∧ rest = rest' := by
  cases hleft with
  | plain hquote hbackslash =>
      cases hright with
      | plain => exact List.cons.inj hsame
      | letter | code => exact absurd (List.cons.inj hsame).1 hbackslash
  | letter hletter =>
      cases hright with
      | plain _ hbackslash => exact absurd (List.cons.inj hsame).1.symm hbackslash
      | letter hother =>
          obtain ⟨rfl, hrest⟩ := List.cons.inj (List.cons.inj hsame).2
          exact ⟨Option.some.inj (hletter.symm.trans hother), hrest⟩
      | code =>
          obtain ⟨rfl, -⟩ := List.cons.inj (List.cons.inj hsame).2
          cases hletter
  | code =>
      cases hright with
      | plain _ hbackslash => exact absurd (List.cons.inj hsame).1.symm hbackslash
      | letter hother =>
          obtain ⟨rfl, -⟩ := List.cons.inj (List.cons.inj hsame).2
          cases hother
      | code =>
          have hnot (c : Char) : '\x7d' ∉ Nat.toDigits 16 c.toNat := by
            intro hmem
            obtain ⟨digit, hdigit⟩ := exists_digitChar_of_mem_toDigits (by decide) hmem
            exact Nat.digitChar_ne '\x7d' (by decide) hdigit.symm
          simp only [List.cons_append, List.append_assoc, List.nil_append, List.cons.injEq,
            true_and] at hsame
          obtain ⟨hdigits, hrest⟩ := append_delimiter_inj (hnot c) (hnot other) hsame
          exact ⟨Char.toNat_inj.1 (toDigits_inj hdigits), hrest⟩

/-! ## Contents -/

/-- What is written for a character tells which one it is and where that ends, and does not begin
with the delimiter. -/
structure Legible (delimiter : Char) (write : Char → List Char) : Prop where
  append_inj : ∀ {c other : Char} {rest rest' : List Char},
    write c ++ rest = write other ++ rest' → c = other ∧ rest = rest'
  exists_cons : ∀ c : Char, ∃ first others, write c = first :: others ∧ first ≠ delimiter

/-- What is written for a content tells which one it is, up to the delimiter behind it. -/
theorem Legible.flatMap_append_inj {delimiter : Char} {write : Char → List Char}
    (hlegible : Legible delimiter write)
    (hsame : left.flatMap write ++ delimiter :: rest = right.flatMap write ++ delimiter :: rest') :
    left = right ∧ rest = rest' := by
  -- Where one content ends, the delimiter tells that the other one ends as well.
  have hends {c : Char} {front rest rest' : List Char} :
      delimiter :: rest ≠ (c :: front).flatMap write ++ rest' := by
    obtain ⟨first, others, hwritten, hfirst⟩ := hlegible.exists_cons c
    intro hsame
    rw [List.flatMap_cons, hwritten] at hsame
    exact hfirst (List.cons.inj hsame).1.symm
  induction left generalizing right with
  | nil =>
      cases right with
      | nil => exact ⟨rfl, List.tail_eq_of_cons_eq hsame⟩
      | cons other right => exact absurd hsame hends
  | cons c left ih =>
      cases right with
      | nil => exact absurd hsame.symm hends
      | cons other right =>
          rw [List.flatMap_cons, List.flatMap_cons, List.append_assoc, List.append_assoc] at hsame
          obtain ⟨rfl, hbehind⟩ := hlegible.append_inj hsame
          obtain ⟨rfl, hrest⟩ := ih hbehind
          exact ⟨rfl, hrest⟩

/-- Characters between double quotes are told apart. -/
theorem legible_escapeIn : Legible '"' (escapeIn '"') where
  append_inj hsame := (escapes_escapeIn _).append_inj (escapes_escapeIn _) hsame
  exists_cons c := (escapes_escapeIn c).exists_cons

/-- A quoted text tells its content and where it ends, whatever follows it. -/
theorem quoted_append_inj {content content' : String}
    (hsame : (quoted content).toList ++ rest = (quoted content').toList ++ rest') :
    content = content' ∧ rest = rest' := by
  simp only [quoted, quoteWith, String.toList_ofList, List.cons_append, List.append_assoc,
    List.nil_append, List.cons.injEq, true_and] at hsame
  obtain ⟨hcontent, hrest⟩ := legible_escapeIn.flatMap_append_inj hsame
  exact ⟨String.toList_inj.1 hcontent, hrest⟩

end TokenTree.Text
