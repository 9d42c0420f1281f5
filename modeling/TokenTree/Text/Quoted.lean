import TokenTree.Text.Plain

/-!
# Quoted text

A text between two delimiters in which every character is either shown as it is or escaped. The
delimiter and the backslash are escaped with a backslash, the line feed, the carriage return, the
tab and the null character by a letter, and every other character that is not plain by its code
point: `\u`, then the hexadecimal digits in braces.
-/

namespace TokenTree.Text

/-- A character as it stands between the given delimiters. -/
def escapeIn (delimiter c : Char) : List Char :=
  if c = delimiter ∨ c = '\\' then ['\\', c]
  else if c = '\n' then ['\\', 'n']
  else if c = '\r' then ['\\', 'r']
  else if c = '\t' then ['\\', 't']
  else if c = '\x00' then ['\\', '0']
  else if isPlain c then [c]
  else ['\\', 'u', '\x7b'] ++ Nat.toDigits 16 c.toNat ++ ['\x7d']

/-- The characters between two delimiters, escaped. -/
def quoteWith (delimiter : Char) (content : List Char) : List Char :=
  delimiter :: content.flatMap (escapeIn delimiter) ++ [delimiter]

/-- A text in double quotes. -/
def quoted (content : String) : String := String.ofList (quoteWith '"' content.toList)

/-- A character in single quotes. -/
def quotedChar (c : Char) : String := String.ofList (quoteWith '\'' [c])

end TokenTree.Text
