import ShapeLisp.Number.Shortest
import ShapeLisp.Text.Alphabetic

/-!
# Reading decimal numbers

A decimal text stands for a real number, and reading it gives the nearest floating point number.
Two grammars are read: the numerals of the language, which are scanned off the start of a text,
and the wider grammar of whole texts that stand for a number, which also has words for what is
not finite.
-/

namespace ShapeLisp.Number

open ShapeLisp.Text

/-- The whole number that a list of digits denotes. -/
def digitsValue (digits : List Char) : Nat :=
  digits.foldl (fun value c => value * 10 + (c.toNat - '0'.toNat)) 0

/-- The value of a hexadecimal digit. -/
def hexValue? (c : Char) : Option Nat :=
  if isAsciiDigit c then some (c.toNat - '0'.toNat)
  else if 'a' ≤ c && c ≤ 'f' then some (c.toNat - 'a'.toNat + 10)
  else if 'A' ≤ c && c ≤ 'F' then some (c.toNat - 'A'.toNat + 10)
  else none

/-- The number with a sign nearest to `digits * 10 ^ exponent`. Decimals that are far beyond the
largest number or far below the smallest are decided by their size alone. -/
def ofDecimal (negative : Bool) (digits : Nat) (exponent : Int) : Float :=
  let order := (digitCount digits : Int) + exponent
  withSign negative
    (if digits = 0 then 0.0
     else if 400 < order then 1.0 / 0.0
     else if order < -400 then 0.0
     else Float.ofScientific digits (exponent < 0) exponent.natAbs)

/-- The parts of a numeral as written. -/
structure Numeral where
  /-- Whether a minus sign stands in front. -/
  negative : Bool
  /-- The digits before the point. -/
  whole : List Char
  /-- The digits after the point. -/
  fraction : List Char
  /-- The exponent of ten, zero when none is written. -/
  exponent : Int
  deriving DecidableEq

/-- The number that a numeral denotes. -/
def Numeral.value (numeral : Numeral) : Float :=
  ofDecimal numeral.negative (digitsValue (numeral.whole ++ numeral.fraction))
    (numeral.exponent - numeral.fraction.length)

/-- Splits the digits off the start of a text. -/
def spanDigits (text : List Char) : List Char × List Char :=
  text.span isAsciiDigit

/-- Reads an optional sign: whether it is a minus, and what follows it. -/
def scanSign : List Char → Bool × List Char
  | '-' :: rest => (true, rest)
  | '+' :: rest => (false, rest)
  | text => (false, text)

/-- Reads a point and the digits after it; without a digit nothing is read. -/
def scanFraction : List Char → List Char × List Char
  | '.' :: rest =>
    match spanDigits rest with
    | ([], _) => ([], '.' :: rest)
    | found => found
  | text => ([], text)

/-- Reads the sign and digits of an exponent after its mark. -/
def scanPower (text : List Char) : Option (Int × List Char) :=
  let (negative, unsigned) := scanSign text
  match spanDigits unsigned with
  | ([], _) => none
  | (digits, rest) =>
    let size : Int := digitsValue digits
    some (if negative then -size else size, rest)

/-- Reads an exponent mark and the exponent; without a digit nothing is read. -/
def scanExponent : List Char → Int × List Char
  | c :: rest =>
    if c = 'e' || c = 'E' then (scanPower rest).getD (0, c :: rest) else (0, c :: rest)
  | [] => (0, [])

/-- Scans the longest numeral off the start of a text: an optional sign, digits, an optional
fraction and an optional exponent. -/
def scanNumeral (text : List Char) : Option (Numeral × List Char) :=
  let (negative, unsigned) := scanSign text
  match spanDigits unsigned with
  | ([], _) => none
  | (whole, afterWhole) =>
    let (fraction, afterFraction) := scanFraction afterWhole
    let (exponent, rest) := scanExponent afterFraction
    some (⟨negative, whole, fraction, exponent⟩, rest)

/-- Lower case of an ASCII letter, other characters unchanged. -/
def asciiLower (c : Char) : Char :=
  if 'A' ≤ c && c ≤ 'Z' then Char.ofNat (c.toNat + 32) else c

/-- The number that a word stands for, in any case. -/
def wordValue? (text : List Char) : Option Float :=
  match String.ofList (text.map asciiLower) with
  | "inf" => some (1.0 / 0.0)
  | "infinity" => some (1.0 / 0.0)
  | "nan" => some (0.0 / 0.0)
  | _ => none

/-- Digits with an optional point, where either side of the point may be empty but not both, and
an optional exponent; nothing may be left. -/
def unsignedNumeral? (negative : Bool) (text : List Char) : Option Numeral :=
  let (whole, afterWhole) := spanDigits text
  let (fraction, afterFraction) := match afterWhole with
    | '.' :: rest => spanDigits rest
    | rest => ([], rest)
  if whole.isEmpty && fraction.isEmpty then none
  else
    match afterFraction with
    | [] => some ⟨negative, whole, fraction, 0⟩
    | c :: rest =>
      if c = 'e' || c = 'E' then
        match scanPower rest with
        | some (exponent, []) => some ⟨negative, whole, fraction, exponent⟩
        | _ => none
      else none

/-- The number that a whole text stands for. -/
def ofText? (text : List Char) : Option Float :=
  let (negative, unsigned) := scanSign text
  match wordValue? unsigned with
  | some x => some (withSign negative x)
  | none => (unsignedNumeral? negative unsigned).map Numeral.value

/-- The number that the optional sign and the digits at the start of a text stand for; what
follows the digits does not matter. -/
def leadingInteger? (text : List Char) : Option Float :=
  let (negative, unsigned) := scanSign text
  match spanDigits unsigned with
  | ([], _) => none
  | (whole, _) => some (Numeral.value ⟨negative, whole, [], 0⟩)

end ShapeLisp.Number
