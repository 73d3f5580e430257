import Mathlib
import ShapeLisp.Proofs.Number.Decimal

/-!
# The shortest decimal reads back

The search for the fewest digits works with whole numbers: the borders of the interval and the
points of a decimal grid are brought to a common unit. Every decimal that it finds reads as the
magnitude, and with seventeen digits it always finds one, since the grid is then finer than the
interval.
-/

namespace ShapeLisp.Number

namespace Rounding

/-- The unit of the borders. -/
def unit (around : Rounding) : ℚ := around.unitNum / around.unitDen

/-- The grid and the borders in a common unit. -/
def scale (around : Rounding) (exponent : ℤ) : ℕ :=
  around.unitNum * 10 ^ (-exponent).toNat

/-- The distance of two points of the grid in the common unit. -/
def step (around : Rounding) (exponent : ℤ) : ℕ :=
  around.unitDen * 10 ^ exponent.toNat

section Units

variable {around : Rounding} (hnum : 0 < around.unitNum) (hden : 0 < around.unitDen)
include hnum

/-- The scale is positive. -/
theorem scale_pos (exponent : ℤ) : 0 < around.scale exponent := by
  unfold scale
  positivity

omit hnum in
include hden in
/-- The step is positive. -/
theorem step_pos (exponent : ℤ) : 0 < around.step exponent := by
  unfold step
  positivity

include hden

/-- The scale and the step measure the unit and the grid alike. -/
theorem exists_common_unit (exponent : ℤ) : ∃ common : ℚ, 0 < common ∧
    (10 : ℚ) ^ exponent = around.step exponent * common ∧
    around.unit = around.scale exponent * common := by
  have hden' : (0 : ℚ) < around.unitDen := by exact_mod_cast hden
  have hten : (0 : ℚ) < 10 ^ (-exponent).toNat := by positivity
  refine ⟨1 / (around.unitDen * 10 ^ (-exponent).toNat), by positivity, ?_, ?_⟩
  · unfold step
    push_cast
    rw [mul_one_div, mul_div_mul_left _ _ hden'.ne', ← zpow_natCast, ← zpow_natCast,
      ← zpow_sub₀ (by norm_num : (10 : ℚ) ≠ 0)]
    congr 1
    omega
  · unfold scale unit
    push_cast
    field_simp

/-- Points of the grid are compared with the borders in the common unit. -/
theorem point_le_iff (exponent : ℤ) (point bound : ℕ) :
    ((point : ℚ) * 10 ^ exponent ≤ bound * around.unit ↔
      point * around.step exponent ≤ bound * around.scale exponent) ∧
    ((bound : ℚ) * around.unit ≤ point * 10 ^ exponent ↔
      bound * around.scale exponent ≤ point * around.step exponent) := by
  obtain ⟨common, hpos, hgrid, hunit⟩ := exists_common_unit hnum hden exponent
  rw [hgrid, hunit, ← mul_assoc, ← mul_assoc]
  constructor
  · rw [mul_le_mul_iff_left₀ hpos]
    exact_mod_cast Iff.rfl
  · rw [mul_le_mul_iff_left₀ hpos]
    exact_mod_cast Iff.rfl

end Units

end Rounding

/-! ### The interval of a magnitude -/

/-- How far below the magnitude its interval reaches, in quarters of the last place. -/
def Magnitude.quarters (size : Magnitude) : ℕ :=
  if size.mantissa = 2 ^ 52 ∧ -1074 < size.exponent then 1 else 2

section Interval

variable {size : Magnitude}

/-- The interval of a magnitude, field by field. -/
theorem ofMagnitude_fields (size : Magnitude) :
    (Rounding.ofMagnitude size).value = 4 * size.mantissa ∧
    (Rounding.ofMagnitude size).low = 4 * size.mantissa - size.quarters ∧
    (Rounding.ofMagnitude size).high = 4 * size.mantissa + 2 ∧
    (Rounding.ofMagnitude size).closed = (size.mantissa % 2 = 0) ∧
    0 < (Rounding.ofMagnitude size).unitNum ∧ 0 < (Rounding.ofMagnitude size).unitDen := by
  have hpow : Nat.pow 2 52 = 2 ^ 52 := rfl
  refine ⟨rfl, ?_, rfl, ?_, Nat.pow_pos (by norm_num), Nat.pow_pos (by norm_num)⟩
  · unfold Rounding.ofMagnitude Magnitude.quarters
    simp only [hpow, Bool.and_eq_true, decide_eq_true_eq]
  · simp [Rounding.ofMagnitude]

/-- The unit of the interval is a quarter of the last place. -/
theorem unit_ofMagnitude (size : Magnitude) :
    (Rounding.ofMagnitude size).unit = 2 ^ size.exponent / 4 := by
  have hfour : (2 : ℚ) ^ size.exponent / 4 = 2 ^ (size.exponent - 2) := by
    rw [zpow_sub₀ (by norm_num : (2 : ℚ) ≠ 0)]
    norm_num
  rw [hfour]
  change ((2 ^ (size.exponent - 2).toNat : ℕ) : ℚ) / (2 ^ (-(size.exponent - 2)).toNat : ℕ) = _
  push_cast
  rw [← zpow_natCast, ← zpow_natCast, ← zpow_sub₀ (by norm_num : (2 : ℚ) ≠ 0)]
  congr 1
  omega

/-- The interval reaches as far below as it does in units of the last place. -/
theorem quarters_eq (size : Magnitude) : (size.quarters : ℚ) = 4 * size.below := by
  unfold Magnitude.quarters Magnitude.below
  split <;> norm_num

/-- A point of a grid that the interval admits reads as the magnitude. -/
theorem reads_of_admits (hpos : 0 < size.mantissa) {exponent : ℤ} {point : ℕ}
    (h : Rounding.admits (Rounding.ofMagnitude size).closed
      ((Rounding.ofMagnitude size).low * (Rounding.ofMagnitude size).scale exponent)
      ((Rounding.ofMagnitude size).high * (Rounding.ofMagnitude size).scale exponent)
      (point * (Rounding.ofMagnitude size).step exponent) = true) :
    size.Reads (point * 10 ^ exponent) := by
  obtain ⟨-, hlow, hhigh, hclosed, hnum, hden⟩ := ofMagnitude_fields size
  obtain ⟨hunder, hover⟩ := And.intro
    (Rounding.point_le_iff hnum hden exponent point (Rounding.ofMagnitude size).low)
    (Rounding.point_le_iff hnum hden exponent point (Rounding.ofMagnitude size).high)
  rw [unit_ofMagnitude] at hunder hover
  have hpower := two_zpow_pos size.exponent
  have hquarters := quarters_eq size
  have hle : size.quarters ≤ 4 * size.mantissa := by
    have : size.quarters ≤ 2 := by
      unfold Magnitude.quarters
      split <;> norm_num
    omega
  have hlow' : ((Rounding.ofMagnitude size).low : ℚ) = 4 * (size.mantissa - size.below) := by
    rw [hlow, Nat.cast_sub hle, hquarters]
    push_cast
    ring
  have hhigh' : ((Rounding.ofMagnitude size).high : ℚ) = 4 * (size.mantissa + 1 / 2) := by
    rw [hhigh]
    push_cast
    ring
  have hmiddle : ∀ border : ℚ, 4 * border * (2 ^ size.exponent / 4) =
      border * 2 ^ size.exponent := fun border => by ring
  rw [hlow', hmiddle] at hunder
  rw [hhigh', hmiddle] at hover
  unfold Rounding.admits at h
  split at h
  · next hopen =>
    simp only [Bool.and_eq_true, decide_eq_true_eq] at h
    rw [hclosed] at hopen
    constructor
    · rw [le_div_iff₀ hpower]
      exact hunder.2.mpr h.1
    · rw [div_le_iff₀ hpower]
      exact hover.1.mpr h.2
    · intro hodd
      omega
  · next hopen =>
    simp only [Bool.and_eq_true, decide_eq_true_eq] at h
    have hstrict : size.mantissa - size.below <
        ((point : ℚ) * 10 ^ exponent) / 2 ^ size.exponent := by
      rw [lt_div_iff₀ hpower, ← not_le]
      exact fun hcontra => absurd (hunder.1.mp hcontra) (not_le.mpr h.1)
    have hstrict' : ((point : ℚ) * 10 ^ exponent) / 2 ^ size.exponent <
        size.mantissa + 1 / 2 := by
      rw [div_lt_iff₀ hpower, ← not_le]
      exact fun hcontra => absurd (hover.2.mp hcontra) (not_le.mpr h.2)
    exact ⟨hstrict.le, hstrict'.le, fun _ => ⟨hstrict, hstrict'⟩⟩

/-- What is found on a grid reads as the magnitude. -/
theorem reads_of_onGrid? (hpos : 0 < size.mantissa) {tie : Tie} {exponent : ℤ} {found : Decimal}
    (h : (Rounding.ofMagnitude size).onGrid? tie exponent = some found) :
    size.Reads (found.digits * 10 ^ found.exponent) := by
  unfold Rounding.onGrid? at h
  dsimp only at h
  split at h
  · next hlower =>
    cases h
    exact reads_of_admits hpos (Bool.and_eq_true_iff.mp hlower).1
  · split at h
    · next hupper =>
      cases h
      exact reads_of_admits hpos hupper
    · cases h

/-- An interval admits what lies strictly inside. -/
theorem admits_of_lt {low high point : ℕ} (hlow : low < point) (hhigh : point < high)
    (closed : Bool) : Rounding.admits closed low high point = true := by
  unfold Rounding.admits
  split
  · simp only [Bool.and_eq_true, decide_eq_true_eq]
    exact ⟨hlow.le, hhigh.le⟩
  · simp only [Bool.and_eq_true, decide_eq_true_eq]
    exact ⟨hlow, hhigh⟩

/-- The interval reaches one or two quarters below. -/
theorem quarters_bounds (size : Magnitude) : 1 ≤ size.quarters ∧ size.quarters ≤ 2 := by
  unfold Magnitude.quarters
  split <;> norm_num

/-- When a step is smaller than the interval, one of the two neighbours of the value lies in it. -/
theorem neighbour_admitted {value quarters scale step : ℕ} (hvalue : quarters ≤ value)
    (hquarters : 1 ≤ quarters) (hscale : 0 < scale) (hstep : 0 < step)
    (hfine : step < (quarters + 2) * scale) (closed : Bool) :
    Rounding.admits closed ((value - quarters) * scale) ((value + 2) * scale)
        (value * scale / step * step) = true ∨
      Rounding.admits closed ((value - quarters) * scale) ((value + 2) * scale)
        ((value * scale / step + 1) * step) = true := by
  have hsplit := Nat.div_add_mod' (value * scale) step
  have hrest := Nat.mod_lt (value * scale) hstep
  have hreach : quarters * scale ≤ value * scale := Nat.mul_le_mul_right scale hvalue
  have hless : scale ≤ quarters * scale := Nat.le_mul_of_pos_left scale hquarters
  rw [Nat.sub_mul, Nat.add_mul value 2 scale, Nat.add_mul _ 1 step, one_mul]
  rw [Nat.add_mul quarters 2 scale] at hfine
  generalize value * scale / step * step = lower at *
  generalize value * scale % step = rest at *
  generalize value * scale = middle at *
  generalize quarters * scale = reach at *
  rcases Nat.lt_or_ge rest reach with hnear | hfar
  · exact .inl (admits_of_lt (by omega) (by omega) closed)
  · exact .inr (admits_of_lt (by omega) (by omega) closed)

/-- A grid finer than the interval has a point in it. -/
theorem onGrid?_isSome (hpos : 0 < size.mantissa) (tie : Tie) {exponent : ℤ}
    (hfine : (Rounding.ofMagnitude size).step exponent <
      (size.quarters + 2) * (Rounding.ofMagnitude size).scale exponent) :
    ((Rounding.ofMagnitude size).onGrid? tie exponent).isSome = true := by
  obtain ⟨hvalue, hlow, hhigh, -, hnum, hden⟩ := ofMagnitude_fields size
  obtain ⟨hquarters, hquarters'⟩ := quarters_bounds size
  have hreads := neighbour_admitted (show size.quarters ≤ 4 * size.mantissa by omega) hquarters
    (Rounding.scale_pos hnum exponent) (Rounding.step_pos hden exponent) hfine
    (Rounding.ofMagnitude size).closed
  rw [← hlow, ← hhigh, ← hvalue] at hreads
  unfold Rounding.onGrid?
  dsimp only
  split
  · rfl
  · next hlower =>
    split
    · rfl
    · next hupper =>
      exfalso
      rcases hreads with hbelow | habove
      · refine hlower (Bool.and_eq_true_iff.mpr ⟨hbelow, ?_⟩)
        rw [Bool.eq_false_of_not_eq_true hupper]
        rfl
      · exact hupper habove

/-! ### The search -/

/-- The exponent of the leading digit is not too large. -/
theorem leadingExponent_le {num den : ℕ} (hnum : 0 < num) (hden : 0 < den) :
    (10 : ℚ) ^ leadingExponent num den ≤ (num : ℚ) / den := by
  have hnum' : (0 : ℚ) < num := by exact_mod_cast hnum
  have hden' : (0 : ℚ) < den := by exact_mod_cast hden
  unfold leadingExponent
  split
  · next hle =>
    have hquotient : 0 < num / den := Nat.div_pos hle hden
    have hcount := digitCount_pos (num / den)
    have hpower : 10 ^ (digitCount (num / den) - 1) * den ≤ num :=
      le_trans (Nat.mul_le_mul_right den (pow_digitCount_le hquotient))
        (Nat.div_mul_le_self num den)
    have hexponent : (digitCount (num / den) : ℤ) - 1 = ((digitCount (num / den) - 1 : ℕ) : ℤ) := by
      omega
    rw [hexponent, zpow_natCast, le_div_iff₀ hden']
    exact_mod_cast hpower
  · next hlt =>
    have hcount := digitCount_pos (den / num)
    have hpow : ∀ order, Nat.pow 10 order = 10 ^ order := fun _ => rfl
    dsimp only
    rw [hpow]
    split
    · next hle =>
      rw [zpow_neg, zpow_natCast, inv_eq_one_div, div_le_div_iff₀ (by positivity) hden', one_mul]
      exact_mod_cast hle
    · have hfloor := lt_pow_digitCount (den / num)
      rw [Nat.div_lt_iff_lt_mul hnum] at hfloor
      have hexponent : -((digitCount (den / num) - 1 : ℕ) : ℤ) - 1 =
          -((digitCount (den / num) : ℕ) : ℤ) := by omega
      rw [hexponent, zpow_neg, zpow_natCast, inv_eq_one_div,
        div_le_div_iff₀ (by positivity) hden', one_mul, mul_comm]
      exact_mod_cast hfloor.le

/-- With seventeen digits the grid is finer than the interval. -/
theorem step_lt_of_leading (hsize : size.IsCanonical) {order : ℤ}
    (hleading : (10 : ℚ) ^ order ≤ (Rounding.ofMagnitude size).value *
      (Rounding.ofMagnitude size).unit) :
    (Rounding.ofMagnitude size).step (order - 16) <
      (size.quarters + 2) * (Rounding.ofMagnitude size).scale (order - 16) := by
  obtain ⟨hvalue, -, -, -, hnum, hden⟩ := ofMagnitude_fields size
  obtain ⟨common, hcommon, hgrid, hunit⟩ :=
    Rounding.exists_common_unit hnum hden (order - 16)
  have hscale := Rounding.scale_pos hnum (order - 16)
  have hmantissa := hsize.mantissa_lt
  generalize (Rounding.ofMagnitude size).step (order - 16) = step at *
  generalize (Rounding.ofMagnitude size).scale (order - 16) = scale at *
  have hpower : (10 : ℚ) ^ order = 10 ^ 16 * 10 ^ (order - 16) := by
    rw [← zpow_natCast, ← zpow_add₀ (by norm_num : (10 : ℚ) ≠ 0)]
    congr 1
    push_cast
    ring
  have hsteps : 10 ^ 16 * step ≤ 4 * size.mantissa * scale := by
    rw [hpower, hgrid, hunit, hvalue, ← mul_assoc, ← mul_assoc,
      mul_le_mul_iff_left₀ hcommon] at hleading
    exact_mod_cast hleading
  have hbits : 4 * size.mantissa < 10 ^ 16 * (size.quarters + 2) := by
    unfold Magnitude.quarters
    split
    · next hpower => omega
    · omega
  have hproduct : 4 * size.mantissa * scale < 10 ^ 16 * (size.quarters + 2) * scale :=
    Nat.mul_lt_mul_of_pos_right hbits hscale
  have hcancel : 10 ^ 16 * step < 10 ^ 16 * ((size.quarters + 2) * scale) := by
    rw [← mul_assoc]
    exact lt_of_le_of_lt hsteps hproduct
  exact Nat.lt_of_mul_lt_mul_left hcancel

/-- The search finds a decimal that reads as the magnitude when its last grid has one. -/
theorem reads_search (hpos : 0 < size.mantissa) (tie : Tie) (count : ℕ) (exponent : ℤ)
    (hlast : ((Rounding.ofMagnitude size).onGrid? tie (exponent - count)).isSome = true) :
    size.Reads (((Rounding.ofMagnitude size).search tie (count + 1) exponent).digits *
      10 ^ ((Rounding.ofMagnitude size).search tie (count + 1) exponent).exponent) := by
  induction count generalizing exponent with
  | zero =>
    rw [Nat.cast_zero, sub_zero] at hlast
    obtain ⟨found, hfound⟩ := Option.isSome_iff_exists.mp hlast
    rw [Rounding.search, hfound]
    exact reads_of_onGrid? hpos hfound
  | succ count ih =>
    rw [Rounding.search]
    split
    · next found hfound => exact reads_of_onGrid? hpos hfound
    · apply ih
      have hexponent : exponent - 1 - count = exponent - (count + 1 : ℕ) := by
        push_cast
        ring
      rw [hexponent]
      exact hlast

/-- Dropping zeros from the end changes nothing in the value. -/
theorem value_trimZeros (count : ℕ) (decimal : Decimal) :
    ((decimal.trimZeros count).digits : ℚ) * 10 ^ (decimal.trimZeros count).exponent =
      decimal.digits * 10 ^ decimal.exponent := by
  induction count generalizing decimal with
  | zero => rfl
  | succ count ih =>
    rw [Decimal.trimZeros]
    split
    · next hzero =>
      have hdigits : decimal.digits = decimal.digits / 10 * 10 :=
        (Nat.div_mul_cancel (Nat.dvd_of_mod_eq_zero hzero)).symm
      have hcast : (decimal.digits : ℚ) = (decimal.digits / 10 : ℕ) * 10 := by
        exact_mod_cast hdigits
      rw [ih, hcast]
      dsimp only
      rw [zpow_add_one₀ (by norm_num : (10 : ℚ) ≠ 0)]
      ring
    · rfl

/-- The shortest decimal reads as the magnitude. -/
theorem reads_shortest (hsize : size.IsCanonical) (hpos : 0 < size.mantissa) (tie : Tie) :
    size.Reads ((shortest tie size).digits * 10 ^ (shortest tie size).exponent) := by
  obtain ⟨hvalue, -, -, -, hnum, hden⟩ := ofMagnitude_fields size
  have hproduct : 0 < (Rounding.ofMagnitude size).value * (Rounding.ofMagnitude size).unitNum := by
    rw [hvalue]
    positivity
  have hleading := leadingExponent_le hproduct hden
  unfold shortest
  dsimp only
  rw [value_trimZeros]
  generalize leadingExponent ((Rounding.ofMagnitude size).value *
    (Rounding.ofMagnitude size).unitNum) (Rounding.ofMagnitude size).unitDen = order at *
  apply reads_search hpos tie 16 order
  apply onGrid?_isSome hpos tie
  apply step_lt_of_leading hsize
  rw [Rounding.unit, mul_div_assoc']
  exact_mod_cast hleading

end Interval

end ShapeLisp.Number
