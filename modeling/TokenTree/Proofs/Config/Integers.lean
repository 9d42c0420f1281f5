import TokenTree.Config.Build
import TokenTree.Proofs.Text.Numeral

/-!
# Rules that read integers

A rule of a configuration selects a group of its match: the whole match, which is group 0, or one of
the groups that capture, from 1 on. A rule for integers emits the number that the selected text is a
numeral of, if the number fits into 64 bits, and the text itself otherwise (`emit_readsInteger`).
-/

namespace TokenTree

open Text (Denotes Fits readInt? readInt?_eq_some_iff readInt?_eq_none_iff denotes_toString)

/-! ## Selected groups -/

/-- The groups of a match by their numbers: the whole match, and then those that capture. A group
that took no part has no text. -/
def RuleMatch.groups (found : RuleMatch) : List (Option String) := some found.text :: found.captures

/-- The text of a group is looked up by its number, which may be beyond all groups. -/
theorem RuleMatch.group?_eq (found : RuleMatch) (index : Nat) :
    found.group? index = found.groups[index]?.join := by
  cases index <;> rfl

namespace Config

/-- Without a group to capture, a rule selects the whole match. -/
theorem RuleEntry.selected?_eq (entry : RuleEntry) (found : RuleMatch) :
    entry.selected? found = found.groups[entry.capture.getD 0]?.join := by
  rw [selected?]
  cases entry.capture with
  | none => rfl
  | some index => exact found.group?_eq index

/-! ## What is emitted -/

/-- What is emitted for the text of a group, if it has one, where integers are to be read. -/
structure ReadsInteger (selected : Option String) (emitted : Emit) : Prop where
  /-- Nothing is emitted exactly for a group without a text. -/
  nothing_iff : emitted = .nothing ↔ selected = none
  /-- A number is emitted exactly for its numerals, and only if it fits. -/
  int_iff : ∀ number, emitted = .value (.int number) ↔
    ∃ text ∈ selected, Denotes text.toList number ∧ Fits number
  /-- All other texts are emitted as they are. -/
  text_iff : ∀ text, emitted = .value (.text text) ↔
    selected = some text ∧ ¬ ∃ number, Denotes text.toList number ∧ Fits number

variable {selected : Option String} {emitted : Emit} {text : String} {number : Int}

/-- A number that fits is emitted for its decimal writing. -/
theorem ReadsInteger.of_toString (hreads : ReadsInteger selected emitted) (hfits : Fits number)
    (hselected : selected = some (toString number)) : emitted = .value (.int number) :=
  (hreads.int_iff number).2 ⟨toString number, hselected, denotes_toString number, hfits⟩

/-- A numeral of a number that does not fit is emitted as it is. -/
theorem ReadsInteger.of_not_fits (hreads : ReadsInteger selected emitted)
    (hselected : selected = some text) (hdenotes : Denotes text.toList number)
    (hunfit : ¬ Fits number) : emitted = .value (.text text) := by
  refine (hreads.text_iff text).2 ⟨hselected, ?_⟩
  -- A number that fits would be another one of the same numeral.
  rintro ⟨other, hother, hfits⟩
  obtain rfl := hdenotes.unique hother
  exact hunfit hfits

/-- Without a text nothing is emitted. -/
theorem readsInteger_none : ReadsInteger none .nothing where
  nothing_iff := by simp
  int_iff := by simp
  text_iff := by simp

/-- Of a text the number is emitted that is read of it, and otherwise the text. -/
theorem readsInteger_some (text : String) :
    ReadsInteger (some text) (.value (((readInt? text.toList).map .int).getD (.text text))) where
  nothing_iff := by simp
  int_iff number := by
    simp only [← readInt?_eq_some_iff]
    cases hread : readInt? text.toList <;> simp [hread]
  text_iff content := by
    simp only [← readInt?_eq_none_iff, Option.some.injEq]
    cases hread : readInt? text.toList with
    | none =>
        constructor
        · rintro ⟨⟩
          exact ⟨rfl, hread⟩
        · rintro ⟨rfl, -⟩
          rfl
    | some number =>
        constructor
        · nofun
        · rintro ⟨rfl, hnone⟩
          rw [hread] at hnone
          contradiction

namespace RuleEntry

variable {entry : RuleEntry}

/-- What a rule for integers makes of a text. -/
theorem emitText_of_int (hvalue : entry.value = .int) (text : String) :
    entry.emitText text = .value (((readInt? text.toList).map .int).getD (.text text)) := by
  rw [emitText.eq_def, hvalue]

/-- For the group that it selects, a rule for integers emits the number of a numeral that fits, the
text unchanged if it is none, and nothing if the group is absent. Every number of 64 bits is emitted
for its decimal writing, and a numeral of any other number is emitted as it is. -/
theorem emit_readsInteger (hvalue : entry.value = .int) (found : RuleMatch) :
    ReadsInteger found.groups[entry.capture.getD 0]?.join (entry.emit found) ∧
      (∀ number, Fits number →
        found.groups[entry.capture.getD 0]? = some (some (toString number)) →
        entry.emit found = .value (.int number)) ∧
      ∀ text number, found.groups[entry.capture.getD 0]? = some (some text) →
        Denotes text.toList number → ¬ Fits number → entry.emit found = .value (.text text) := by
  have hreads : ReadsInteger found.groups[entry.capture.getD 0]?.join (entry.emit found) := by
    rw [← entry.selected?_eq found, emit]
    cases entry.selected? found with
    | none => exact readsInteger_none
    | some text =>
        show ReadsInteger (some text) (entry.emitText text)
        rw [emitText_of_int hvalue]
        exact readsInteger_some text
  refine ⟨hreads, ?_, ?_⟩
  · intro number hfits hselected
    exact hreads.of_toString hfits (Option.join_eq_some_iff.2 hselected)
  · intro text number hselected hdenotes hunfit
    exact hreads.of_not_fits (Option.join_eq_some_iff.2 hselected) hdenotes hunfit

/-- A rule for integers that selects a group, or the whole match. -/
def integerRule (capture : Option Nat) : RuleEntry :=
  ⟨"int", "([a-z])?(-?[0-9]+)[0-9]", false, capture, .int⟩

/-- A match with a group that took no part and one with the smallest number of 64 bits. -/
def smallestMatch : RuleMatch :=
  ⟨"-92233720368547758080", [none, some "-9223372036854775808"], 0⟩

/-- The smallest number is emitted as such, ten times that as a text, and nothing is emitted for
groups that took no part or do not exist. -/
theorem emit_readsInteger_smallest :
    (integerRule (some 2)).emit smallestMatch = .value (.int (-2 ^ 63)) ∧
      (integerRule none).emit smallestMatch = .value (.text "-92233720368547758080") ∧
      (integerRule (some 1)).emit smallestMatch = .nothing ∧
      (integerRule (some 18446744073709551615)).emit smallestMatch = .nothing := by
  have hwritten : toString (-92233720368547758080 : Int) = "-92233720368547758080" := by decide
  refine ⟨?_, ?_, ?_, ?_⟩
  · exact (emit_readsInteger rfl smallestMatch).2.1 _ (by decide) rfl
  · exact (emit_readsInteger rfl smallestMatch).2.2 _ _ rfl (hwritten ▸ denotes_toString _)
      (by decide)
  · exact (emit_readsInteger rfl smallestMatch).1.nothing_iff.2 rfl
  · exact (emit_readsInteger rfl smallestMatch).1.nothing_iff.2 rfl

end RuleEntry

end Config

end TokenTree
