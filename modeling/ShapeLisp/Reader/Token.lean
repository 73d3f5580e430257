import ShapeLisp.Value.Basic
import ShapeLisp.Number.Numeral
import ShapeLisp.Text.CodePoints

/-!
# Tokens

A scanner takes a text and returns what it read with the text that is left, or says where it
stopped. A scanner that has recognised a construct by its first characters is committed: when it
stops, no other reading is tried.

Tokens are the expressions without parts: numbers, ranges, strings, symbols, pointers and regular
expressions. White space, parentheses, quotes and semicolons end a token.
-/

namespace ShapeLisp.Reader

open ShapeLisp.Text ShapeLisp.Number

variable [Regex.Engine]

/-- Why a scanner stopped. -/
inductive Trouble where
  /-- The text cannot go on like this. -/
  | unexpected
  /-- Expressions are nested too deeply. -/
  | tooDeep
  /-- A regular expression does not compile. -/
  | badRegex (refusal : Regex.Refusal)
  deriving DecidableEq

/-- Where and why a scanner stopped. -/
structure Stop where
  /-- Whether no other reading may be tried. -/
  committed : Bool
  /-- Why. -/
  trouble : Trouble
  /-- The text from the place on. -/
  place : List Char
  deriving DecidableEq

/-- A scanner of texts: it returns a result with the text left over, or where it stopped. -/
abbrev Scanner (α : Type) := List Char → Except Stop (α × List Char)

/-- Stops here, open to other readings. -/
def unexpected {α : Type} (place : List Char) : Except Stop α :=
  .error ⟨false, .unexpected, place⟩

/-- Stops here for good. -/
def failed {α : Type} (trouble : Trouble) (place : List Char) : Except Stop α :=
  .error ⟨true, trouble, place⟩

/-- Makes a stop final. -/
def commit {α : Type} : Except Stop α → Except Stop α
  | .error stop => .error { stop with committed := true }
  | .ok result => .ok result

/-- Tries a second reading when the first one stopped without being committed. -/
def either {α : Type} (first second : Scanner α) : Scanner α := fun text =>
  match first text with
  | .error stop => if stop.committed then .error stop else second text
  | .ok result => .ok result

/-- Applies a function to what a scanner returns. -/
def mapResult {α β : Type} (f : α → β) :
    Except Stop (α × List Char) → Except Stop (β × List Char)
  | .error stop => .error stop
  | .ok (result, rest) => .ok (f result, rest)

/-- Whether a character ends a token. -/
def isDelimiter (c : Char) : Bool :=
  isWhitespace c || c = '(' || c = ')' || c = '\'' || c = '"' || c = ';'

/-- Demands that a token ends before the text. -/
def tokenEnd (text : List Char) : Except Stop Unit :=
  match text with
  | [] => .ok ()
  | c :: _ => if isDelimiter c then .ok () else unexpected text

/-- A numeral, whatever follows it. -/
def numeral : Scanner Float := fun text =>
  match scanNumeral text with
  | some (found, rest) => .ok (found.value, rest)
  | none => unexpected text

/-- The given characters. -/
def exactly (expected : List Char) : Scanner Unit := fun text =>
  if expected.isPrefixOf text then .ok ((), text.drop expected.length) else unexpected text

/-- A number that ends its token. -/
def number : Scanner Value := fun text => do
  let (x, rest) ← numeral text
  tokenEnd rest
  return (.num x, rest)

/-- The step of a range after two slashes; without a numeral nothing is read. -/
def rangeStep (text : List Char) : Option Float × List Char :=
  match text with
  | '/' :: '/' :: rest =>
    match scanNumeral rest with
    | some (step, rest) => (some step.value, rest)
    | none => (none, text)
  | _ => (none, text)

/-- Two numerals with two points between them, and a step that may be missing. -/
def range : Scanner Value := fun text => do
  let (start, rest) ← numeral text
  let ((), rest) ← exactly ['.', '.'] rest
  let (stop, rest) ← numeral rest
  let (step, rest) := rangeStep rest
  tokenEnd rest
  return (.range start stop step, rest)

/-- The character that a letter after a backslash stands for in a string. -/
def escaped? (letter : Char) : Option Char :=
  if letter = 'n' then some '\n'
  else if letter = 't' then some '\t'
  else if letter = 'r' then some '\r'
  else if letter = '\\' then some '\\'
  else if letter = '"' then some '"'
  else none

/-- The rest of a string after its opening quote. -/
def stringBody : Scanner (List Char)
  | [] => failed .unexpected []
  | ['\\'] => failed .unexpected []
  | '\\' :: letter :: rest =>
    match escaped? letter with
    | some c => mapResult (c :: ·) (stringBody rest)
    | none => failed .unexpected ('\\' :: letter :: rest)
  | c :: rest => if c = '"' then .ok ([], rest) else mapResult (c :: ·) (stringBody rest)

/-- The text of a string between double quotes. -/
def stringText : Scanner String := fun text =>
  match text with
  | '"' :: rest => mapResult String.ofList (stringBody rest)
  | _ => unexpected text

/-- A string. -/
def string : Scanner Value := fun text => mapResult .str (stringText text)

/-- Whether a character may stand in a symbol. -/
def isSymbolChar (c : Char) : Bool :=
  isAlphanumeric c ||
    ['!', '$', '%', '&', '*', '+', '-', '.', '/', ':', '<', '=', '>', '?', '@', '^', '_', '~', '|',
      '#'].contains c

/-- The value of a word: three words are literals, the others are symbols. -/
def wordValue (name : List Char) : Value :=
  if name = ['n', 'i', 'l'] then .nil
  else if name = ['t', 'r', 'u', 'e'] then .bool true
  else if name = ['f', 'a', 'l', 's', 'e'] then .bool false
  else .sym (String.ofList name)

/-- A symbol or a literal word; it does not start with a digit. -/
def symbol : Scanner Value := fun text =>
  match text.span isSymbolChar with
  | ([], _) => unexpected text
  | (first :: others, rest) =>
    if isAsciiDigit first then unexpected text
    else do
      tokenEnd rest
      return (wordValue (first :: others), rest)

/-- A pointer: two slashes and a path, of which one slash is kept. -/
def pointer : Scanner Value := fun text =>
  match text with
  | '/' :: '/' :: path =>
    match path.span (!isDelimiter ·) with
    | ([], _) => unexpected path
    | (name, rest) => .ok (.pointer (String.ofList ('/' :: name)), rest)
  | _ => unexpected text

/-- Splits a text at its first slash that no backslash escapes. -/
def splitRegex : (escaped : Bool) → List Char → Option (List Char × List Char)
  | _, [] => none
  | true, c :: rest => (splitRegex false rest).map fun (source, left) => (c :: source, left)
  | false, c :: rest =>
    if c = '/' then some ([], rest)
    else (splitRegex (c = '\\') rest).map fun (source, left) => (c :: source, left)

/-- Whether a regular expression may start with a character. -/
def startsRegex (c : Char) : Bool :=
  !isWhitespace c && c != '/' && c != ')'

/-- A regular expression between slashes with flag letters after it. -/
def regex : Scanner Value := fun text =>
  match text with
  | '/' :: body =>
    if body.head?.any startsRegex then
      match splitRegex false body with
      | none => failed .unexpected []
      | some (source, rest) => do
        let (letters, rest) := rest.span isAsciiLetter
        commit (tokenEnd rest)
        match Regex.ofSource (String.ofList source) (String.ofList letters) with
        | .ok literal => return (.regex literal, rest)
        | .error refusal => failed (.badRegex refusal) text
    else unexpected text
  | _ => unexpected text

end ShapeLisp.Reader
