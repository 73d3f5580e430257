import ShapeLisp.Number.Shortest

/-!
# Written numbers

A layout says how the shortest digits of a number are put on paper: which exponents are written
with a plain decimal point, what marks a whole number, and how an exponent is written. Three
layouts are used: `plain` in the notation of the language, `json` in JSON text and `diagnostic` in
descriptions of values.
-/

namespace ShapeLisp.Number

/-- The decisions of one way of writing finite numbers. -/
structure Layout where
  /-- Least exponent of the leading digit that is written positionally, if there is a least. -/
  lowest : Option Int
  /-- Greatest exponent of the leading digit that is written positionally, if there is one. -/
  highest : Option Int
  /-- What follows the digits of a whole number written positionally. -/
  wholeMark : List Char
  /-- The sign of an exponent that is not negative. -/
  plusMark : List Char
  /-- Which of two equally near shortest decimals is written. -/
  tie : Tie

/-- Every number is written positionally and whole numbers have no point. -/
def Layout.plain : Layout := ⟨none, none, [], [], .away⟩

/-- Positional from a hundred-thousandth to below ten to the sixteenth, whole numbers end in `.0`,
exponents carry a sign. -/
def Layout.json : Layout := ⟨some (-5), some 15, ['.', '0'], ['+'], .even⟩

/-- Positional from a ten-thousandth to below ten to the sixteenth, whole numbers end in `.0`,
positive exponents carry no sign. -/
def Layout.diagnostic : Layout := ⟨some (-4), some 15, ['.', '0'], [], .away⟩

/-- Whether a number with this exponent of its leading digit is written positionally. -/
def Layout.isPositional (layout : Layout) (order : Int) : Bool :=
  layout.lowest.all (· ≤ order) && layout.highest.all (order ≤ ·)

/-- The digits of a whole number. -/
def wholeText (n : Nat) : List Char :=
  Nat.toDigits 10 n

/-- An integer in decimal. -/
def integerText (n : Int) : List Char :=
  if n < 0 then '-' :: wholeText n.natAbs else wholeText n.natAbs

/-- Digits with the decimal point where it belongs. -/
def Layout.positional (layout : Layout) (decimal : Decimal) : List Char :=
  let digits := wholeText decimal.digits
  if 0 ≤ decimal.exponent then
    digits ++ List.replicate decimal.exponent.toNat '0' ++ layout.wholeMark
  else
    let places := (-decimal.exponent).toNat
    let padded := List.replicate (places + 1 - digits.length) '0' ++ digits
    padded.take (padded.length - places) ++ '.' :: padded.drop (padded.length - places)

/-- Digits with the point after the first and an exponent of ten. -/
def Layout.scientific (layout : Layout) (decimal : Decimal) (order : Int) : List Char :=
  let point := match wholeText decimal.digits with
    | [] => []
    | [digit] => [digit]
    | digit :: rest => digit :: '.' :: rest
  let exponent := if order < 0 then integerText order else layout.plusMark ++ integerText order
  point ++ 'e' :: exponent

/-- A positive finite magnitude in a layout. -/
def Layout.magnitudeText (layout : Layout) (size : Magnitude) : List Char :=
  let decimal := shortest layout.tie size
  let order := (digitCount decimal.digits : Int) - 1 + decimal.exponent
  if layout.isPositional order then layout.positional decimal
  else layout.scientific decimal order

/-- A number in a layout; what is not finite has a word of its own. -/
def Layout.text (layout : Layout) (x : Float) : List Char :=
  if x.isNaN then ['N', 'a', 'N']
  else
    let sign := if isNegative x then ['-'] else []
    let size := magnitude x
    if !x.isFinite then sign ++ ['i', 'n', 'f']
    else if size.mantissa = 0 then sign ++ '0' :: layout.wholeMark
    else sign ++ layout.magnitudeText size

/-- A number in the notation of the language: whole numbers of magnitude at most `exactLimit` as
integers, so that negative zero loses its sign, and all others in the plain layout. -/
def surfaceText (x : Float) : List Char :=
  match exactInteger? x with
  | some n => integerText n
  | none => Layout.plain.text x

end ShapeLisp.Number
