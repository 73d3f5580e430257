/-!
# The parts of a number

Numbers of the language are binary64 floating point numbers. A finite one is a whole mantissa
times a power of two; this module takes a number apart into these and computes on them exactly:
the integer part, the floor and the bounds of two numbers. No rounding happens here, so every
result is the one that the numbers themselves have.
-/

namespace ShapeLisp.Number

/-- A finite number without its sign: `mantissa * 2 ^ exponent`. -/
structure Magnitude where
  /-- The whole number that is scaled, below `2 ^ 53`. -/
  mantissa : Nat
  /-- The power of two that scales it. -/
  exponent : Int
  deriving DecidableEq

/-- Whether the sign bit is set; it is for negative numbers and for negative zero. -/
def isNegative (x : Float) : Bool :=
  Nat.pow 2 63 ≤ x.toBits.toNat

/-- The fraction field of the bit pattern. -/
def fractionField (x : Float) : Nat :=
  x.toBits.toNat % Nat.pow 2 52

/-- The exponent field of the bit pattern. -/
def exponentField (x : Float) : Nat :=
  x.toBits.toNat / Nat.pow 2 52 % Nat.pow 2 11

/-- The magnitude of a finite number. Numbers with exponent field zero have no leading one. -/
def magnitude (x : Float) : Magnitude :=
  if exponentField x = 0 then ⟨fractionField x, -1074⟩
  else ⟨Nat.pow 2 52 + fractionField x, (exponentField x : Int) - 1075⟩

namespace Magnitude

/-- The whole number below or at the magnitude. -/
def whole (size : Magnitude) : Nat :=
  if 0 ≤ size.exponent then size.mantissa * Nat.pow 2 size.exponent.toNat
  else size.mantissa / Nat.pow 2 (-size.exponent).toNat

/-- Whether nothing is left beside the whole number. -/
def isWhole (size : Magnitude) : Bool :=
  0 ≤ size.exponent || size.mantissa % Nat.pow 2 (-size.exponent).toNat = 0

end Magnitude

/-- A finite number without a fractional part. -/
def isIntegral (x : Float) : Bool :=
  x.isFinite && (magnitude x).isWhole

/-- The integer part of a finite number, cut toward zero. -/
def integerPart (x : Float) : Int :=
  if isNegative x then -((magnitude x).whole : Int) else (magnitude x).whole

/-- Puts a sign back on a magnitude that is a whole number; zero keeps its sign. -/
def withSign (negative : Bool) (x : Float) : Float :=
  if negative then -x else x

/-- Cuts the fractional part off, toward zero. -/
def truncate (x : Float) : Float :=
  if !x.isFinite || (magnitude x).isWhole then x
  else withSign (isNegative x) (Float.ofNat (magnitude x).whole)

/-- The greatest integral number that is not above the given one. -/
def floor (x : Float) : Float :=
  if !x.isFinite || (magnitude x).isWhole then x
  else if isNegative x then -Float.ofNat ((magnitude x).whole + 1)
  else Float.ofNat (magnitude x).whole

/-- The lesser of two numbers. One that is not a number gives way to the other, and of two equal
ones it is the second. -/
def lesser (a b : Float) : Float :=
  if a.isNaN then b else if b.isNaN then a else if a < b then a else b

/-- The greater of two numbers, with the conventions of `lesser`. -/
def greater (a b : Float) : Float :=
  if a.isNaN then b else if b.isNaN then a else if b < a then a else b

/-- The largest magnitude up to which every whole number is a number. -/
def exactLimit : Nat := Nat.pow 2 53 - 1

/-- The integer that a number is, when it is one of magnitude at most `exactLimit`. -/
def exactInteger? (x : Float) : Option Int :=
  if isIntegral x && (magnitude x).whole ≤ exactLimit then some (integerPart x) else none

end ShapeLisp.Number
