/-!
# Tables of code point ranges and white space

A character class of the Unicode standard is given by the list of its ranges of code points.
Membership is a search through the ranges, so a question about a class is a question about
numbers.

Two notions of white space are used side by side. `isWhitespace` is the Unicode property
White_Space; it separates tokens. `isBlank` holds of the four layout characters only; it is what
may stand before a value inside a JSON literal.
-/

namespace ShapeLisp.Text

/-- A class of characters as ranges of code points, first and last of each included. -/
abbrev CodePoints := List (Nat × Nat)

/-- Whether a code point lies in one of the ranges. -/
def CodePoints.contains (table : CodePoints) (point : Nat) : Bool :=
  table.any fun (low, high) => low ≤ point && point ≤ high

/-- Whether a character lies in one of the ranges. -/
def CodePoints.has (table : CodePoints) (c : Char) : Bool :=
  table.contains c.toNat

/-! ### White space -/

/-- The Unicode property White_Space. -/
def whitespacePoints : CodePoints :=
  [(0x0009, 0x000D), (0x0020, 0x0020), (0x0085, 0x0085), (0x00A0, 0x00A0), (0x1680, 0x1680),
   (0x2000, 0x200A), (0x2028, 0x2029), (0x202F, 0x202F), (0x205F, 0x205F), (0x3000, 0x3000)]

/-- The Unicode property White_Space. -/
def isWhitespace (c : Char) : Bool :=
  whitespacePoints.has c

/-- Space, tab, carriage return or line feed. -/
def isBlank (c : Char) : Bool :=
  c = ' ' || c = '\t' || c = '\r' || c = '\n'

/-- Drops the white space at the start. -/
def trimStart (text : List Char) : List Char :=
  text.dropWhile isWhitespace

/-- Drops the white space at both ends. -/
def trim (text : List Char) : List Char :=
  (trimStart (trimStart text).reverse).reverse

end ShapeLisp.Text
