import ShapeLisp.Reader.Token

/-!
# JSON literals

Inside a program JSON is written with some freedom: keys and texts need no quotes, commas may be
left out or stand at the end, and any number that the language can write is allowed. A word that
is none of the three JSON words is a text.
-/

namespace ShapeLisp.Reader

open ShapeLisp.Text

/-- Whether a character may stand in a bare word. -/
def isWordChar (c : Char) : Bool :=
  !isWhitespace c &&
    !([',', ':', '\x7b', '\x7d', '[', ']', '"', '(', ')'].contains c)

/-- A bare word. -/
def bareWord : Scanner (List Char) := fun text =>
  match text.span isWordChar with
  | ([], _) => unexpected text
  | found => .ok found

/-- The document of a bare word. -/
def wordDocument (word : List Char) : Json :=
  if word = ['t', 'r', 'u', 'e'] then .bool true
  else if word = ['f', 'a', 'l', 's', 'e'] then .bool false
  else if word = ['n', 'u', 'l', 'l'] then .null
  else .str (String.ofList word)

/-- Demands that a number ends before the text. -/
def documentEnd (text : List Char) : Except Stop Unit :=
  match text with
  | [] => .ok ()
  | c :: _ =>
    if isWhitespace c || [',', ':', '\x7d', ']'].contains c then .ok () else unexpected text

/-- A number as a document. -/
def numberDocument : Scanner Json := fun text => do
  let (x, rest) ← numeral text
  documentEnd rest
  return (Json.ofNumber x, rest)

/-- A document after blanks: a container, a string, a number or a bare word. -/
def document (container : Scanner Json) : Scanner Json := fun text =>
  either container
    (either (fun text => mapResult .str (stringText text))
      (either numberDocument fun text => mapResult wordDocument (bareWord text)))
    (text.dropWhile isBlank)

/-- A key after blanks: a string or a bare word. -/
def key : Scanner String := fun text =>
  either stringText (fun text => mapResult String.ofList (bareWord text))
    (text.dropWhile isBlank)

/-- A colon after blanks. -/
def colon : Scanner Unit := fun text => exactly [':'] (text.dropWhile isBlank)

/-- Drops white space and one comma. -/
def dropSeparator (text : List Char) : List Char :=
  match trimStart text with
  | ',' :: rest => rest
  | rest => rest

/-- The members of an object up to its closing brace. Each round reads at least a character, so
the length of the text is fuel enough. -/
def objectMembers (item : Scanner Json) : (fuel : Nat) → Keyed Json → Scanner Json
  | 0, _, text => failed .unexpected text
  | fuel + 1, members, text =>
    match trimStart text with
    | '\x7d' :: rest => .ok (.obj members, rest)
    | text => do
      let (name, rest) ← commit (key text)
      let ((), rest) ← commit (colon rest)
      let (document, rest) ← commit (item rest)
      objectMembers item fuel (Keyed.insert name document members) (dropSeparator rest)

/-- The items of an array up to its closing bracket, those already read in reverse order. -/
def arrayItems (item : Scanner Json) : (fuel : Nat) → List Json → Scanner Json
  | 0, _, text => failed .unexpected text
  | fuel + 1, items, text =>
    match trimStart text with
    | ']' :: rest => .ok (.arr items.reverse, rest)
    | text => do
      let (document, rest) ← commit (item text)
      arrayItems item fuel (document :: items) (dropSeparator rest)

/-- An object or an array with room for so many levels, itself included. -/
def container : (room : Nat) → Scanner Json
  | 0, text =>
    match text with
    | '\x7b' :: _ | '[' :: _ => failed .tooDeep text
    | _ => unexpected text
  | room + 1, text =>
    match text with
    | '\x7b' :: rest => objectMembers (document (container room)) (rest.length + 1) [] rest
    | '[' :: rest => arrayItems (document (container room)) (rest.length + 1) [] rest
    | _ => unexpected text

end ShapeLisp.Reader
