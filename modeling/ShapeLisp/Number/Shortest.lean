import ShapeLisp.Number.Binary64

/-!
# The fewest digits that read back

Every real number close enough to a floating point number is rounded to it. Among the decimals in
that interval the shortest has the fewest digits, and of several with that many it is the one
nearest to the number. The search tries one digit, two digits and so on, and for each count only
the two neighbours of the number on the grid of decimals of that count.
-/

namespace ShapeLisp.Number

/-- A positive decimal: `digits * 10 ^ exponent`. -/
structure Decimal where
  /-- The significant digits as a whole number. -/
  digits : Nat
  /-- The power of ten that scales them. -/
  exponent : Int
  deriving DecidableEq

/-- Which of two equally near decimals is taken. -/
inductive Tie where
  /-- The one further from zero. -/
  | away
  /-- The one whose last digit is even. -/
  | even
  deriving DecidableEq

/-- How many decimal digits a whole number has; zero has one. -/
def digitCount (n : Nat) : Nat :=
  (Nat.toDigits 10 n).length

/-- The exponent of ten of the leading digit of `num / den`, for a positive quotient. -/
def leadingExponent (num den : Nat) : Int :=
  if den ≤ num then (digitCount (num / den) : Int) - 1
  else
    let order := digitCount (den / num) - 1
    if den ≤ num * Nat.pow 10 order then -(order : Int) else -(order : Int) - 1

/-- The decimals that read back as one number, each bound a multiple of `unitNum / unitDen`. -/
structure Rounding where
  /-- The number itself. -/
  value : Nat
  /-- The lower end of the interval. -/
  low : Nat
  /-- The upper end of the interval. -/
  high : Nat
  /-- Whether the ends themselves read back. -/
  closed : Bool
  /-- Numerator of the unit. -/
  unitNum : Nat
  /-- Denominator of the unit. -/
  unitDen : Nat

/-- The interval of the decimals that read back as a magnitude. Its unit is a quarter of the last
place; below a power of two the numbers lie twice as close. -/
def Rounding.ofMagnitude (size : Magnitude) : Rounding :=
  let value := 4 * size.mantissa
  let below := if size.mantissa = Nat.pow 2 52 && -1074 < size.exponent then 1 else 2
  let quarter := size.exponent - 2
  { value := value
    low := value - below
    high := value + 2
    closed := size.mantissa % 2 = 0
    unitNum := Nat.pow 2 quarter.toNat
    unitDen := Nat.pow 2 (-quarter).toNat }

/-- Whether a point lies in an interval, its ends included when it is closed. -/
def Rounding.admits (closed : Bool) (low high point : Nat) : Bool :=
  if closed then low ≤ point && point ≤ high else low < point && point < high

/-- The decimal of exponent `exponent` that reads back and is nearest to the number, if one of its
two neighbours on that grid reads back. -/
def Rounding.onGrid? (around : Rounding) (tie : Tie) (exponent : Int) : Option Decimal :=
  let scale := around.unitNum * Nat.pow 10 (-exponent).toNat
  let step := around.unitDen * Nat.pow 10 exponent.toNat
  let value := around.value * scale
  let low := around.low * scale
  let high := around.high * scale
  let below := value / step
  let rest := value % step
  let lowerReads := Rounding.admits around.closed low high (below * step)
  let upperReads := Rounding.admits around.closed low high ((below + 1) * step)
  let upperIsNearer := step < 2 * rest || (step = 2 * rest && (tie = .away || below % 2 = 1))
  if lowerReads && (!upperReads || !upperIsNearer) then some ⟨below, exponent⟩
  else if upperReads then some ⟨below + 1, exponent⟩
  else none

/-- Tries `count` further digit counts from the grid of the given exponent on. The last grid tried
is fine enough for every number. -/
def Rounding.search (around : Rounding) (tie : Tie) : (count : Nat) → (exponent : Int) → Decimal
  | 0, exponent => ⟨around.value, exponent⟩
  | count + 1, exponent =>
    match around.onGrid? tie exponent with
    | some found => found
    | none => around.search tie count (exponent - 1)

/-- Removes at most `count` zeros from the end of the digits. -/
def Decimal.trimZeros : (count : Nat) → Decimal → Decimal
  | 0, decimal => decimal
  | count + 1, decimal =>
    if decimal.digits % 10 = 0 then
      trimZeros count ⟨decimal.digits / 10, decimal.exponent + 1⟩
    else decimal

/-- Seventeen digits tell any two numbers apart. -/
def longestDigits : Nat := 17

/-- The shortest decimal that reads back as a positive magnitude. -/
def shortest (tie : Tie) (size : Magnitude) : Decimal :=
  let around := Rounding.ofMagnitude size
  let order := leadingExponent (around.value * around.unitNum) around.unitDen
  (around.search tie longestDigits order).trimZeros longestDigits

end ShapeLisp.Number
