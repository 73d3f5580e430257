import ShapeLisp.Json.Basic
import ShapeLisp.Number.Layout

/-!
# JSON text

The compact text of a document: no blanks, members in the order of their keys, non-ASCII
characters as they are, and escapes only where the standard demands them.
-/

namespace ShapeLisp.Json

/-- The lower-case hexadecimal digit of a number below sixteen. -/
def hexDigit (n : Nat) : Char :=
  if n < 10 then Char.ofNat ('0'.toNat + n) else Char.ofNat ('a'.toNat + n - 10)

/-- One character inside a JSON string: quotes and backslashes are escaped, and so is every
character below U+0020, by its letter if it has one and by its code otherwise. -/
def charText (c : Char) : List Char :=
  if c = '"' then ['\\', '"']
  else if c = '\\' then ['\\', '\\']
  else if c = '\x08' then ['\\', 'b']
  else if c = '\x0c' then ['\\', 'f']
  else if c = '\n' then ['\\', 'n']
  else if c = '\r' then ['\\', 'r']
  else if c = '\t' then ['\\', 't']
  else if c.toNat < 0x20 then
    ['\\', 'u', '0', '0', hexDigit (c.toNat / 16), hexDigit (c.toNat % 16)]
  else [c]

/-- A text as a JSON string. -/
def stringText (text : String) : List Char :=
  '"' :: text.toList.flatMap charText ++ ['"']

mutual

/-- The compact text of a document. -/
def text : Json → List Char
  | .null => ['n', 'u', 'l', 'l']
  | .bool true => ['t', 'r', 'u', 'e']
  | .bool false => ['f', 'a', 'l', 's', 'e']
  | .int n => Number.integerText n
  | .float x => Number.Layout.json.text x
  | .str s => stringText s
  | .arr items => '[' :: itemsText items
  | .obj members => '\x7b' :: membersText members

/-- The items of an array with the commas between them and the closing bracket. -/
def itemsText : List Json → List Char
  | [] => [']']
  | [item] => text item ++ [']']
  | item :: rest => text item ++ ',' :: itemsText rest

/-- The members of an object with the commas between them and the closing brace. -/
def membersText : List (String × Json) → List Char
  | [] => ['\x7d']
  | [(key, item)] => stringText key ++ ':' :: text item ++ ['\x7d']
  | (key, item) :: rest => stringText key ++ ':' :: text item ++ ',' :: membersText rest

end

end ShapeLisp.Json
