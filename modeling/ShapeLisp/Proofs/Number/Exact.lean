import ShapeLisp.Proofs.Number.Arithmetic
import ShapeLisp.Proofs.Number.Written

/-!
# Exact integers

A number is recognised as an integer by its bit pattern. This module says the same of its value:
the number is finite, its value is the integer, and the integer is of a magnitude up to which every
integer is a number. The integer made a number again is the number itself, up to the sign of zero.
-/

namespace ShapeLisp.Number

open Float.Model Float.Model.UnpackedFloat

/-! ### Values that are integers -/

/-- A magnitude has no fractional part when its value is a whole number. -/
theorem Magnitude.isWhole_iff {size : Magnitude} :
    size.isWhole = true ↔ ∃ n : ℕ, size.value = n := by
  constructor
  · intro h
    exact ⟨size.whole, Magnitude.value_eq_whole h⟩
  · rintro ⟨n, hvalue⟩
    rcases le_or_gt 0 size.exponent with hexponent | hexponent
    · rw [isWhole, decide_eq_true hexponent, Bool.true_or]
    · have hscaled := Magnitude.value_of_neg hexponent
      rw [hvalue] at hscaled
      have hproduct : n * 2 ^ (-size.exponent).toNat = size.mantissa := by exact_mod_cast hscaled
      have hpow : Nat.pow 2 (-size.exponent).toNat = 2 ^ (-size.exponent).toNat := rfl
      rw [isWhole, hpow, ← hproduct, Nat.mul_mod_left, decide_eq_true rfl, Bool.or_true]

section Exact

variable {x y : Float}

/-- A number without a fractional part has its integer part as its value. -/
theorem toRat_eq_integerPart (h : (magnitude x).isWhole = true) : toRat x = integerPart x := by
  rw [toRat, integerPart, Magnitude.value_eq_whole h]
  split
  · push_cast
    rfl
  · push_cast
    rfl

/-- Numbers with the same value are the same, up to the sign of zero. -/
theorem same_of_toRat_eq (hx : x.isFinite = true) (hy : y.isFinite = true)
    (h : toRat x = toRat y) : Same x y := by
  rcases eq_or_ne (toRat x) 0 with hzero | hne
  · exact .of_zero hx hy (toRat_eq_zero_iff.mp hzero) (toRat_eq_zero_iff.mp (h.symm.trans hzero))
  · have hrounds := Rounds.self hy (h ▸ hne)
    rw [← h] at hrounds
    exact .inl ((Rounds.self hx hne).unique hrounds)

/-- The size of an integer part is the whole number of the magnitude. -/
theorem natAbs_integerPart (x : Float) : (integerPart x).natAbs = (magnitude x).whole := by
  rw [integerPart]
  split
  · rw [Int.natAbs_neg, Int.natAbs_natCast]
  · exact Int.natAbs_natCast _

/-- A number is recognised as an integer when it is finite, has the integer as its value, and the
integer is not larger than the exact limit. -/
theorem exactInteger?_eq_some_iff {n : ℤ} :
    exactInteger? x = some n ↔ x.isFinite = true ∧ toRat x = n ∧ n.natAbs ≤ exactLimit := by
  rw [exactInteger?, isIntegral, Option.ite_none_right_eq_some, Option.some.injEq]
  simp only [Bool.and_eq_true, decide_eq_true_eq]
  constructor
  · rintro ⟨⟨⟨hx, hwhole⟩, hle⟩, rfl⟩
    exact ⟨hx, toRat_eq_integerPart hwhole, by rwa [natAbs_integerPart]⟩
  · rintro ⟨hx, hvalue, hle⟩
    have hwhole : (magnitude x).isWhole = true := by
      refine Magnitude.isWhole_iff.mpr ⟨n.natAbs, ?_⟩
      rw [← abs_toRat, hvalue, Nat.cast_natAbs, Int.cast_abs]
    have hpart : integerPart x = n := by
      have hcast := (toRat_eq_integerPart hwhole).symm.trans hvalue
      exact_mod_cast hcast
    rw [← natAbs_integerPart, hpart]
    exact ⟨⟨⟨hx, hwhole⟩, hle⟩, rfl⟩

/-- A finite number is recognised as no integer when every integer that is its value is larger than
the exact limit. -/
theorem exactInteger?_eq_none_iff (hx : x.isFinite = true) :
    exactInteger? x = none ↔ ∀ n : ℤ, toRat x = n → exactLimit < n.natAbs := by
  rw [Option.eq_none_iff_forall_ne_some]
  refine forall_congr' fun n => ?_
  rw [Ne, exactInteger?_eq_some_iff, ← not_le]
  tauto

/-- An integer up to the exact limit is recognised. -/
theorem exactInteger?_ofInt {n : ℤ} (h : n.natAbs ≤ exactLimit) :
    exactInteger? (Float.ofInt n) = some n := by
  have hlimit : exactLimit = 2 ^ 53 - 1 := rfl
  obtain ⟨hfinite, hvalue⟩ := ofInt_fields (z := n) (by omega)
  exact exactInteger?_eq_some_iff.mpr ⟨hfinite, hvalue, h⟩

/-- The integer that is recognised is the number itself, up to the sign of zero. -/
theorem same_of_exactInteger? {n : ℤ} (h : exactInteger? x = some n) : Same (Float.ofInt n) x := by
  have hlimit : exactLimit = 2 ^ 53 - 1 := rfl
  obtain ⟨hx, hvalue, hle⟩ := exactInteger?_eq_some_iff.mp h
  obtain ⟨hfinite, hexact⟩ := ofInt_fields (z := n) (by omega)
  exact same_of_toRat_eq hfinite hx (hexact.trans hvalue.symm)

end Exact

/-! ### Integers of 64 bits -/

/-- A positive whole number of 64 bits is the number with some magnitude. -/
theorem exists_ofNat_eq {n : ℕ} (hpos : 0 < n) (hle : n ≤ 2 ^ 64) :
    ∃ size : Magnitude, ∃ hsize : 0 < size.mantissa,
      size.IsCanonical ∧ Float.ofNat n = ofMagnitude false size hsize := by
  have hone : (1 : ℚ) ≤ n := by exact_mod_cast hpos
  have hmost : (n : ℚ) ≤ 2 ^ (64 : ℤ) := by exact_mod_cast hle
  have hleast : (2 : ℚ) ^ (-1022 : ℤ) ≤ n :=
    le_trans (zpow_le_one_of_nonpos₀ (by norm_num) (by norm_num)) hone
  have hroom : (2 : ℚ) ^ (64 : ℤ) < 2 ^ (1023 : ℤ) :=
    zpow_lt_zpow_right₀ (by norm_num) (by norm_num)
  obtain ⟨size, hsize, hcanonical, hreads⟩ :=
    Magnitude.exists_reads hleast (lt_of_le_of_lt hmost hroom)
  rw [show (n : ℚ) = n * 10 ^ (0 : ℤ) by rw [zpow_zero, mul_one]] at hreads
  exact ⟨size, hsize, hcanonical,
    float_ofScientific_eq hcanonical hsize hpos hreads (by norm_num) (by omega)⟩

/-- An integer of 64 bits is a finite number. -/
theorem isFinite_ofInt {z : ℤ} (hle : z.natAbs ≤ 2 ^ 64) : (Float.ofInt z).isFinite = true := by
  rcases eq_or_ne z 0 with rfl | hne
  · decide +kernel
  · obtain ⟨size, hsize, hcanonical, heq⟩ := exists_ofNat_eq (Int.natAbs_pos.mpr hne) hle
    cases z with
    | ofNat n =>
      change (Float.ofNat n).isFinite = true
      rw [show n = (Int.ofNat n).natAbs from rfl, heq]
      exact (fields_ofMagnitude hcanonical hsize false).2.2
    | negSucc n =>
      have hwhole := withSign_ofMagnitude hcanonical hsize true
      rw [← heq] at hwhole
      change (withSign true (Float.ofNat (Int.negSucc n).natAbs)).isFinite = true
      rw [hwhole]
      exact (fields_ofMagnitude hcanonical hsize true).2.2

end ShapeLisp.Number
