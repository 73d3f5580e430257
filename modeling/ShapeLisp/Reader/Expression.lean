import ShapeLisp.Reader.JsonLiteral

/-!
# Expressions

An expression is a token, a JSON literal, a quoted expression or a list of expressions. Between
expressions white space is skipped, and comments, which run from a semicolon to the end of the
line, when they are accepted. Expressions may be nested `maxDepth` levels deep.
-/

namespace ShapeLisp.Reader

open ShapeLisp.Text

variable [Regex.Engine]

/-- How many levels expressions may be nested. -/
def maxDepth : Nat := 64

mutual

/-- Drops white space, and comments where they are accepted. -/
def skipLayout (comments : Bool) : List Char → List Char
  | [] => []
  | c :: rest =>
    if isWhitespace c then skipLayout comments rest
    else if comments && c = ';' then skipComment comments rest
    else c :: rest

/-- Drops the rest of a comment and the layout after it. -/
def skipComment (comments : Bool) : List Char → List Char
  | [] => []
  | c :: rest => if c = '\n' then skipLayout comments rest else skipComment comments rest

end

/-- An expression after a quotation mark. -/
def quotation (inner : Scanner Value) : Scanner Value := fun text =>
  match text with
  | '\'' :: rest => mapResult .quoted (commit (inner rest))
  | _ => unexpected text

/-- The elements of a list up to its closing parenthesis, those already read in reverse order.
Each round reads at least a character, so the length of the text is fuel enough. -/
def elements (comments : Bool) (element : Scanner Value) :
    (fuel : Nat) → List Value → Scanner Value
  | 0, _, text => failed .unexpected text
  | fuel + 1, known, text =>
    match skipLayout comments text with
    | ')' :: rest => .ok (.list known.reverse, rest)
    | text => do
      let (value, rest) ← commit (element text)
      elements comments element fuel (value :: known) rest

/-- Expressions between parentheses. -/
def parenthesized (comments : Bool) (element : Scanner Value) : Scanner Value := fun text =>
  match text with
  | '(' :: rest => elements comments element (rest.length + 1) [] rest
  | _ => unexpected text

/-- The readings of a token, in the order in which they are tried. -/
def token : Scanner Value :=
  either string (either pointer (either regex (either range (either number symbol))))

/-- An expression with room for so many levels, itself included. -/
def expression (comments : Bool) : (room : Nat) → Scanner Value
  | 0, text => failed .tooDeep text
  | room + 1, text =>
    either (quotation (expression comments room))
      (either (parenthesized comments (expression comments room))
        (either (fun text => mapResult .json (container (room + 1) text)) token))
      (skipLayout comments text)

end ShapeLisp.Reader
