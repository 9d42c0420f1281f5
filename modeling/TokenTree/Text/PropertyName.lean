import TokenTree.Text.Age
import TokenTree.Text.Break
import TokenTree.Text.Script

/-!
# Names of properties

`property?` gives the characters that a name stands for: that of a property, a category or a script,
or the names of a property and of a value with a sign between them. Case, blanks, hyphens and
underscores do not count in a name.
-/

namespace TokenTree.Text

/-- A name in its plain form. What is not ASCII does not count, nor does `is` in front, except in
the short name of a comment. -/
def plainName (name : List Char) : String :=
  let marked := match name.take 2 with
    | [first, second] => (first = 'i' || first = 'I') && (second = 's' || second = 'S')
    | _ => false
  let counted (c : Char) : Bool := c.toNat < 128 && c != ' ' && c != '_' && c != '-'
  let plain := ((if marked then name.drop 2 else name).filter counted).map Char.toLower
  if marked && plain == ['c'] then "isc" else String.ofList plain

/-- The text before and after the first place where a sign stands. -/
def cut? (sign : List Char) : List Char → Option (List Char × List Char)
  | [] => none
  | c :: rest =>
      if sign.isPrefixOf (c :: rest) then some ([], (c :: rest).drop sign.length)
      else (cut? sign rest).map fun (before, after) => (c :: before, after)

/-- The characters with a value of a property. -/
def valued? (property value : String) : Option CharSet :=
  match property with
  | "gc" | "generalcategory" => category? value
  | "sc" | "script" => script? value
  | "scx" | "scriptextensions" => extendedScript? value
  | "age" => aged? value
  | "gcb" | "graphemeclusterbreak" => Property.find? clusterBreaks value
  | "wb" | "wordbreak" => Property.find? wordBreaks value
  | "sb" | "sentencebreak" => Property.find? sentenceBreaks value
  | _ => none

/-- The characters that a name stands for, as it is written. A sign that says that the value is
another one does not count. -/
def property? (name : List Char) : Option CharSet :=
  match cut? ['!', '='] name <|> cut? [':'] name <|> cut? ['='] name with
  | some (property, value) => valued? (plainName property) (plainName value)
  | none =>
      let name := plainName name
      ownProperty? name <|> category? name <|> script? name

end TokenTree.Text
