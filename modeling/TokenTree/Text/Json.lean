/-!
# Strings of compact JSON

The quote and the backslash are escaped with a backslash, the five controls that have a letter by
that letter, every other control below the space by four hexadecimal digits. All other characters
stand for themselves.
-/

namespace TokenTree.Text

/-- A control character by its code point, in four hexadecimal digits. -/
def escapeByNumber (c : Char) : List Char :=
  let digits := Nat.toDigits 16 c.toNat
  ['\\', 'u'] ++ List.replicate (4 - digits.length) '0' ++ digits

/-- A character inside a JSON string. -/
def jsonChar (c : Char) : List Char :=
  if c = '"' ∨ c = '\\' then ['\\', c]
  else if c = '\x08' then ['\\', 'b']
  else if c = '\x0c' then ['\\', 'f']
  else if c = '\n' then ['\\', 'n']
  else if c = '\r' then ['\\', 'r']
  else if c = '\t' then ['\\', 't']
  else if c.toNat < 0x20 then escapeByNumber c
  else [c]

/-- A text as a JSON string. -/
def jsonString (content : String) : String :=
  String.ofList ('"' :: content.toList.flatMap jsonChar ++ ['"'])

end TokenTree.Text
