import TokenTree.Text.CharSet

/-!
# White space

The characters with the Unicode property White_Space.
-/

namespace TokenTree.Text

/-- The white space characters, as sorted ranges. -/
def blankRanges : List (Nat × Nat) :=
  [(0x9, 0xD), (0x20, 0x20), (0x85, 0x85), (0xA0, 0xA0), (0x1680, 0x1680), (0x2000, 0x200A),
   (0x2028, 0x2029), (0x202F, 0x202F), (0x205F, 0x205F), (0x3000, 0x3000)]

/-- The set of white space characters. -/
def CharSet.blank : CharSet := ⟨blankRanges⟩

/-- A white space character. -/
def isBlank (c : Char) : Bool := CharSet.blank.contains c

end TokenTree.Text
