import ShapeLisp.Reader.Expression
import ShapeLisp.Error

/-!
# Source texts

A source text holds one or more expressions. One is read as it is, several are read as the list
of them. What cannot be read is reported with its place.
-/

namespace ShapeLisp.Reader

open ShapeLisp.Text

variable [Regex.Engine]

/-- The first characters of a text that an error message shows. -/
def glimpse (text : List Char) : String :=
  String.ofList (text.take 10)

/-- The error of a stop in a source text. -/
def Stop.report (source : List Char) (stop : Stop) : ParseError :=
  let offset := byteLength source - byteLength stop.place
  match stop.trouble with
  | .tooDeep =>
    .withContext .tooDeeplyNested s!"Expression too deeply nested (max depth: {maxDepth})" source
      offset
  | .badRegex refusal =>
    let reason := (Error.of (.regex refusal)).text
    .withContext .invalidRegex s!"Invalid regular expression: {reason}" source offset
  | .unexpected =>
    if stop.place.isEmpty then
      .withContext .incomplete "Unexpected end of input" source offset
    else
      .withContext .invalidSyntax s!"Invalid syntax near '{glimpse stop.place}'" source offset

/-- The error of a closing parenthesis that closes nothing. -/
def trailing (source place : List Char) : ParseError :=
  .withContext .trailingContent s!"Unexpected remaining input: '{String.ofList place}'" source
    (byteLength source - byteLength place)

/-- The expressions of a source text from a place on, those already read in reverse order. -/
def expressions (comments : Bool) (source : List Char) :
    (fuel : Nat) → List Value → List Char → Except ParseError (List Value)
  | 0, known, _ => .ok known.reverse
  | fuel + 1, known, text =>
    match skipLayout comments text with
    | [] => .ok known.reverse
    | ')' :: rest => .error (trailing source (')' :: rest))
    | text =>
      match expression comments maxDepth text with
      | .ok (value, rest) => expressions comments source fuel (value :: known) rest
      | .error stop => .error (stop.report source)

/-- Reads a source text given as characters. -/
def readChars (comments : Bool) (source : List Char) : Except ParseError Value := do
  match ← expressions comments source (source.length + 1) [] source with
  | [] => .error (.ofMessage .incomplete "Empty input")
  | [value] => return value
  | values => return .list values

/-- Reads a source text, with or without comments. -/
def readWith (comments : Bool) (source : String) : Except ParseError Value :=
  readChars comments source.toList

/-- Reads a source text with comments. -/
def read (source : String) : Except ParseError Value :=
  readWith true source

end ShapeLisp.Reader
