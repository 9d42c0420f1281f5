import Mathlib.Tactic.SplitIfs
import TokenTree.Proofs.Text.Quoted
import TokenTree.Text.Json
import TokenTree.Toml.Text

/-!
# JSON strings are told apart

What stands for a character in a JSON string can be read back: `readJsonChar?` reads the first
character and gives what is left. A writing with such a reader, one that refuses the delimiter, is
legible, so a JSON string tells its content and where it ends (`jsonString_append_inj`).
-/

namespace TokenTree.Text

open Toml (hexValue?)

variable {c : Char} {rest rest' : List Char}

/-! ## Reading a character -/

/-- The character that a letter behind a backslash stands for in JSON. -/
def jsonUnescaped? : Char → Option Char
  | '"' => some '"'
  | '\\' => some '\\'
  | 'b' => some '\x08'
  | 'f' => some '\x0c'
  | 'n' => some '\n'
  | 'r' => some '\r'
  | 't' => some '\t'
  | _ => none

/-- The number that hexadecimal digits denote. -/
def hexNumber? (digits : List Char) : Option Nat :=
  digits.foldlM (fun number digit => (hexValue? digit).map (16 * number + ·)) 0

/-- The first character in a JSON string, with what is left. The quote ends the string. -/
def readJsonChar? : List Char → Option (Char × List Char)
  | '\\' :: 'u' :: a :: b :: d :: e :: rest =>
      (hexNumber? [a, b, d, e]).map fun code => (Char.ofNat code, rest)
  | '\\' :: letter :: rest => (jsonUnescaped? letter).map (·, rest)
  | '"' :: _ => none
  | c :: rest => some (c, rest)
  | [] => none

/-- Any other character than the quote and the backslash stands for itself. -/
theorem readJsonChar?_cons (hquote : c ≠ '"') (hbackslash : c ≠ '\\') (rest : List Char) :
    readJsonChar? (c :: rest) = some (c, rest) := by
  rw [readJsonChar?.eq_def]
  split <;> simp_all

/-- A control character is written in four digits, which denote it. -/
theorem exists_digits_escapeByNumber (hcontrol : c.toNat < 0x20) :
    ∃ a b d e, escapeByNumber c = ['\\', 'u', a, b, d, e] ∧
      hexNumber? [a, b, d, e] = some c.toNat := by
  have hcodes : ∀ code < 0x20,
      let digits := List.replicate (4 - (Nat.toDigits 16 code).length) '0' ++ Nat.toDigits 16 code
      digits.length = 4 ∧ hexNumber? digits = some code := by decide
  obtain ⟨hlength, hnumber⟩ := hcodes c.toNat hcontrol
  obtain ⟨a, b, d, e, hdigits⟩ := List.length_eq_four.1 hlength
  refine ⟨a, b, d, e, ?_, hdigits ▸ hnumber⟩
  rw [escapeByNumber, List.append_assoc, hdigits]
  rfl

/-- A character is read back as it was written, whatever follows it. -/
theorem readJsonChar?_jsonChar (c : Char) (rest : List Char) :
    readJsonChar? (jsonChar c ++ rest) = some (c, rest) := by
  rw [jsonChar]
  split_ifs with hself hback hfeed hline hreturn htab hcontrol
  · obtain rfl | rfl := hself <;> rfl
  · exact hback ▸ rfl
  · exact hfeed ▸ rfl
  · exact hline ▸ rfl
  · exact hreturn ▸ rfl
  · exact htab ▸ rfl
  · -- The reader takes the four digits at once, whichever they are.
    obtain ⟨a, b, d, e, hescape, hnumber⟩ := exists_digits_escapeByNumber hcontrol
    have hread : readJsonChar? ('\\' :: 'u' :: a :: b :: d :: e :: rest) =
        (hexNumber? [a, b, d, e]).map fun code => (Char.ofNat code, rest) := rfl
    rw [hnumber, Option.map_some, Char.ofNat_toNat] at hread
    rw [hescape]
    exact hread
  · obtain ⟨hquote, hbackslash⟩ := not_or.1 hself
    exact readJsonChar?_cons hquote hbackslash rest

/-! ## Strings -/

/-- What can be read back character by character is legible, if the delimiter is not read. -/
theorem Legible.of_read {delimiter : Char} {write : Char → List Char}
    {read : List Char → Option (Char × List Char)}
    (hread : ∀ c rest, read (write c ++ rest) = some (c, rest)) (hnil : read [] = none)
    (hdelimiter : ∀ rest, read (delimiter :: rest) = none) : Legible delimiter write where
  append_inj {c other rest rest'} hsame := by
    have hboth := congrArg read hsame
    rw [hread, hread] at hboth
    exact Prod.mk.inj (Option.some.inj hboth)
  exists_cons c := by
    have hwritten := hread c []
    rw [List.append_nil] at hwritten
    cases hwrite : write c with
    | nil =>
        rw [hwrite, hnil] at hwritten
        contradiction
    | cons first others =>
        refine ⟨first, others, rfl, ?_⟩
        rintro rfl
        rw [hwrite, hdelimiter] at hwritten
        contradiction

/-- Characters in JSON strings are told apart. -/
theorem legible_jsonChar : Legible '"' jsonChar :=
  .of_read readJsonChar?_jsonChar rfl fun _ => rfl

/-- A JSON string tells its content and where it ends, whatever follows it. -/
theorem jsonString_append_inj {content content' : String}
    (hsame : (jsonString content).toList ++ rest = (jsonString content').toList ++ rest') :
    content = content' ∧ rest = rest' := by
  simp only [jsonString, String.toList_ofList, List.cons_append, List.append_assoc,
    List.nil_append, List.cons.injEq, true_and] at hsame
  obtain ⟨hcontent, hrest⟩ := legible_jsonChar.flatMap_append_inj hsame
  exact ⟨String.toList_inj.1 hcontent, hrest⟩

end TokenTree.Text
