import Mathlib
import ShapeLisp.Proofs.Number.Binary64

/-!
# Rounding to a magnitude

Every real number close enough to a floating point number is rounded to it. `Magnitude.Reads` says
which rational numbers are close enough to a magnitude. The rounding of the specification works on
a mantissa with two bits that tell where the exact value lies above it; `roundWithAccuracy_eq`
shows that it gives a magnitude for every value that reads as it.
-/

namespace ShapeLisp.Number

open Float.Model Float.Model.UnpackedFloat

/-! ### Where the exact value lies -/

/-- The exact value, in units of the last place, lies where the two bits say. -/
def Represents (extended : ExtendedMantissa) (x : ℚ) : Prop :=
  match extended with
  | ⟨mantissa, false, false⟩ => x = mantissa
  | ⟨mantissa, false, true⟩ => (mantissa : ℚ) < x ∧ x < mantissa + 1 / 2
  | ⟨mantissa, true, false⟩ => x = mantissa + 1 / 2
  | ⟨mantissa, true, true⟩ => (mantissa : ℚ) + 1 / 2 < x ∧ x < mantissa + 1

/-- Dropping one bit of the mantissa keeps track of the exact value. -/
theorem Represents.shiftRightOne {extended : ExtendedMantissa} {x : ℚ}
    (h : Represents extended x) : Represents extended.shiftRightOne (x / 2) := by
  obtain ⟨mantissa, round, sticky⟩ := extended
  have hsplit : (mantissa : ℚ) = 2 * (mantissa / 2 : ℕ) + (mantissa % 2 : ℕ) := by
    exact_mod_cast (Nat.div_add_mod mantissa 2).symm
  rcases Nat.mod_two_eq_zero_or_one mantissa with hmod | hmod
  · rw [hmod] at hsplit
    push_cast at hsplit
    cases round <;> cases sticky <;>
      simp only [Represents, ExtendedMantissa.shiftRightOne, hmod, bne_self_eq_false,
        Bool.or_self, Bool.or_false, Bool.or_true] at h ⊢
    · linarith
    · constructor <;> linarith
    · constructor <;> linarith
    · constructor <;> linarith
  · rw [hmod] at hsplit
    push_cast at hsplit
    have hbit : (1 != 0) = true := rfl
    cases round <;> cases sticky <;>
      simp only [Represents, ExtendedMantissa.shiftRightOne, hmod, hbit,
        Bool.or_self, Bool.or_false, Bool.or_true] at h ⊢
    · linarith
    · constructor <;> linarith
    · constructor <;> linarith
    · constructor <;> linarith

/-- Dropping bits of the mantissa keeps track of the exact value. -/
theorem Represents.shiftRight {extended : ExtendedMantissa} {x : ℚ} (h : Represents extended x)
    (count : ℕ) : Represents (extended >>> count) (x / 2 ^ count) := by
  induction count with
  | zero =>
    rw [pow_zero, div_one]
    exact h
  | succ count ih =>
    have hnext := ih.shiftRightOne
    rw [div_div, ← pow_succ] at hnext
    exact hnext

/-! ### Rounding to the nearest whole number -/

/-- The whole number is nearest to the value, and even where two are equally near. -/
def RoundsTo (x : ℚ) (rounded : ℕ) : Prop :=
  (rounded : ℚ) - 1 / 2 < x ∧ x < rounded + 1 / 2 ∨
    (x = rounded - 1 / 2 ∨ x = rounded + 1 / 2) ∧ rounded % 2 = 0

/-- The rounded mantissa is nearest to the exact value. -/
theorem Represents.roundsTo {extended : ExtendedMantissa} {x : ℚ} (h : Represents extended x) :
    RoundsTo x extended.roundedMantissa := by
  obtain ⟨mantissa, round, sticky⟩ := extended
  cases round <;> cases sticky <;>
    simp only [Represents, RoundsTo, ExtendedMantissa.roundedMantissa, ExtendedMantissa.accuracy,
      Accuracy.roundToNearestEven] at h ⊢
  · left
    constructor <;> linarith
  · left
    constructor <;> linarith
  · right
    rcases Nat.mod_two_eq_zero_or_one mantissa with hmod | hmod
    · refine ⟨.inr ?_, by omega⟩
      rw [hmod]
      push_cast
      linarith
    · refine ⟨.inl ?_, by omega⟩
      rw [hmod]
      push_cast
      linarith
  · left
    push_cast
    constructor <;> linarith

/-- The value lies within half a unit of the whole number. -/
theorem RoundsTo.bounds {x : ℚ} {rounded : ℕ} (h : RoundsTo x rounded) :
    (rounded : ℚ) - 1 / 2 ≤ x ∧ x ≤ rounded + 1 / 2 := by
  rcases h with ⟨hlow, hhigh⟩ | ⟨heq | heq, _⟩ <;> constructor <;> linarith

/-- Only one whole number is nearest in this sense. -/
theorem RoundsTo.unique {x : ℚ} {a b : ℕ} (ha : RoundsTo x a) (hb : RoundsTo x b) : a = b := by
  -- of two different ones the lesser would end where the greater begins, and both would be even
  have hle : ∀ {a b : ℕ}, RoundsTo x a → RoundsTo x b → ¬ a < b := by
    intro a b ha hb hlt
    have hcast : (a : ℚ) + 1 ≤ b := by exact_mod_cast hlt
    have hupper := ha.bounds.2
    have hlower := hb.bounds.1
    have hnext : (b : ℚ) = a + 1 := by linarith
    have hnat : b = a + 1 := by exact_mod_cast hnext
    have heven : a % 2 = 0 := by
      rcases ha with ⟨_, h⟩ | ⟨_, h⟩
      · linarith
      · exact h
    have heven' : b % 2 = 0 := by
      rcases hb with ⟨h, _⟩ | ⟨_, h⟩
      · linarith
      · exact h
    omega
  exact Nat.le_antisymm (Nat.not_lt.mp (hle hb ha)) (Nat.not_lt.mp (hle ha hb))

/-! ### The scale of a value -/

/-- Two to a power is positive. -/
theorem two_zpow_pos (n : ℤ) : (0 : ℚ) < 2 ^ n := zpow_pos (by norm_num) n

/-- Greater powers of two have greater exponents. -/
theorem two_zpow_le {m n : ℤ} (h : m ≤ n) : (2 : ℚ) ^ m ≤ 2 ^ n :=
  zpow_le_zpow_right₀ (by norm_num) h

/-- The exponent of the last place of a value with 53 bits, or the least exponent. -/
structure IsScale (scale : ℤ) (value : ℚ) : Prop where
  /-- It is not below the least exponent. -/
  least : -1074 ≤ scale
  /-- The value has at most 53 bits before the last place. -/
  value_lt : value < 2 ^ (scale + 53)
  /-- It has all of them unless the exponent is the least. -/
  le_value : scale = -1074 ∨ (2 : ℚ) ^ (scale + 52) ≤ value

/-- A value has one scale. -/
theorem IsScale.unique {s t : ℤ} {value : ℚ} (hs : IsScale s value) (ht : IsScale t value) :
    s = t := by
  have hle : ∀ {s t : ℤ}, IsScale s value → IsScale t value → ¬ s < t := by
    intro s t hs ht hlt
    have hleast := hs.least
    rcases ht.le_value with heq | hle
    · omega
    · have hvalue := hs.value_lt
      have hpow : (2 : ℚ) ^ (s + 53) ≤ 2 ^ (t + 52) := two_zpow_le (by omega)
      linarith
  have hst := hle hs ht
  have hts := hle ht hs
  omega

/-- The target exponent of a mantissa is the scale of the values between it and the next one. -/
theorem isScale_target {mantissa : ℕ} {exponent : ℤ} {value : ℚ}
    (hlow : (mantissa : ℚ) * 2 ^ exponent ≤ value)
    (hhigh : value < (mantissa + 1) * 2 ^ exponent)
    (htarget : exponent ≤ Format.binary64.targetExponent (totalExponent mantissa exponent)) :
    IsScale (Format.binary64.targetExponent (totalExponent mantissa exponent)) value := by
  have hdef : Format.binary64.targetExponent (totalExponent mantissa exponent) =
      max ((mantissa.log2 : ℤ) + 1 + exponent - 53) (-1074) := rfl
  rw [hdef] at htarget ⊢
  have hpos := two_zpow_pos exponent
  constructor
  · exact le_max_right ..
  · have hlog : (mantissa : ℚ) + 1 ≤ 2 ^ (mantissa.log2 + 1) := by
      exact_mod_cast Nat.lt_log2_self
    calc value < (mantissa + 1) * 2 ^ exponent := hhigh
      _ ≤ 2 ^ (mantissa.log2 + 1) * 2 ^ exponent := by gcongr
      _ = 2 ^ ((mantissa.log2 : ℤ) + 1 + exponent) := by
        rw [zpow_add₀ (by norm_num : (2 : ℚ) ≠ 0), ← zpow_natCast]
        push_cast
        rfl
      _ ≤ _ := two_zpow_le (by omega)
  · rcases eq_or_ne (max ((mantissa.log2 : ℤ) + 1 + exponent - 53) (-1074)) (-1074) with h | h
    · exact .inl h
    · right
      have hmax : max ((mantissa.log2 : ℤ) + 1 + exponent - 53) (-1074) =
          (mantissa.log2 : ℤ) + 1 + exponent - 53 := by omega
      have hne : mantissa ≠ 0 := by
        rintro rfl
        have hzero : Nat.log2 0 = 0 := by simp
        rw [hmax, hzero] at htarget
        omega
      have hlog : (2 : ℚ) ^ mantissa.log2 ≤ mantissa := by
        exact_mod_cast Nat.log2_self_le hne
      rw [hmax]
      calc (2 : ℚ) ^ ((mantissa.log2 : ℤ) + 1 + exponent - 53 + 52)
          = 2 ^ mantissa.log2 * 2 ^ exponent := by
            rw [← zpow_natCast, ← zpow_add₀ (by norm_num : (2 : ℚ) ≠ 0)]
            congr 1
            ring
        _ ≤ mantissa * 2 ^ exponent := by gcongr
        _ ≤ value := hlow

/-! ### The values that read as a magnitude -/

/-- How far below a magnitude the values reach that read as it, in units of the last place. Below a
power of two the numbers lie twice as close. -/
def Magnitude.below (size : Magnitude) : ℚ :=
  if size.mantissa = 2 ^ 52 ∧ -1074 < size.exponent then 1 / 4 else 1 / 2

/-- The value is rounded to the magnitude: it lies nearest to it, and on the border only when the
mantissa is even. -/
structure Magnitude.Reads (size : Magnitude) (value : ℚ) : Prop where
  /-- It is not too small. -/
  lower : size.mantissa - size.below ≤ value / 2 ^ size.exponent
  /-- It is not too large. -/
  upper : value / 2 ^ size.exponent ≤ size.mantissa + 1 / 2
  /-- It is not on the border of an odd mantissa. -/
  inside : size.mantissa % 2 = 1 → size.mantissa - size.below < value / 2 ^ size.exponent ∧
    value / 2 ^ size.exponent < size.mantissa + 1 / 2

namespace Magnitude

variable {size : Magnitude} {value : ℚ}

/-- The values reach at least a quarter and at most half a unit below. -/
theorem below_bounds (size : Magnitude) : 1 / 4 ≤ size.below ∧ size.below ≤ 1 / 2 := by
  unfold below
  split <;> norm_num

/-- A value that reads as a magnitude is rounded to its mantissa at its exponent. -/
theorem Reads.roundsTo (h : size.Reads value) :
    RoundsTo (value / 2 ^ size.exponent) size.mantissa := by
  have hbelow := (below_bounds size).2
  have hlower := h.lower
  have hupper := h.upper
  rcases Nat.mod_two_eq_zero_or_one size.mantissa with heven | hodd
  · by_cases hlow : value / 2 ^ size.exponent = size.mantissa - 1 / 2
    · exact .inr ⟨.inl hlow, heven⟩
    · by_cases hhigh : value / 2 ^ size.exponent = size.mantissa + 1 / 2
      · exact .inr ⟨.inr hhigh, heven⟩
      · have hne : (size.mantissa : ℚ) - 1 / 2 ≠ value / 2 ^ size.exponent := fun h => hlow h.symm
        exact .inl ⟨lt_of_le_of_ne (by linarith) hne, lt_of_le_of_ne hupper hhigh⟩
  · obtain ⟨hlow, hhigh⟩ := h.inside hodd
    exact .inl ⟨by linarith, hhigh⟩

/-- Scaling by a power of two turns a bound on the quotient into one on the value. -/
theorem scaled_lt (bound : ℚ) {exponent : ℤ} {bits : ℕ} (hbound : bound ≤ 2 ^ bits)
    (h : value / 2 ^ exponent < bound) : value < 2 ^ (exponent + bits) := by
  have hpos := two_zpow_pos exponent
  rw [div_lt_iff₀ hpos] at h
  calc value < bound * 2 ^ exponent := h
    _ ≤ 2 ^ bits * 2 ^ exponent := by gcongr
    _ = 2 ^ (exponent + bits) := by
      rw [zpow_add₀ (by norm_num : (2 : ℚ) ≠ 0), zpow_natCast, mul_comm]

/-- Scaling by a power of two turns a lower bound on the quotient into one on the value. -/
theorem le_scaled (bound : ℚ) {exponent : ℤ} {bits : ℕ} (hbound : 2 ^ bits ≤ bound)
    (h : bound ≤ value / 2 ^ exponent) : 2 ^ (exponent + bits) ≤ value := by
  have hpos := two_zpow_pos exponent
  rw [le_div_iff₀ hpos] at h
  calc (2 : ℚ) ^ (exponent + bits) = 2 ^ bits * 2 ^ exponent := by
        rw [zpow_add₀ (by norm_num : (2 : ℚ) ≠ 0), zpow_natCast, mul_comm]
    _ ≤ bound * 2 ^ exponent := by gcongr
    _ ≤ value := h

/-- A value that reads as a magnitude has its exponent as its scale, or it lies right below a power
of two, has the scale below and is rounded up. -/
theorem Reads.scale (hsize : size.IsCanonical) (h : size.Reads value) :
    IsScale size.exponent value ∨
      size.mantissa = 2 ^ 52 ∧ IsScale (size.exponent - 1) value ∧
        RoundsTo (value / 2 ^ (size.exponent - 1)) (2 ^ 53) := by
  have hlower := h.lower
  have hupper := h.upper
  have hbelow := below_bounds size
  have hmantissa : (size.mantissa : ℚ) + 1 ≤ 2 ^ 53 := by exact_mod_cast hsize.mantissa_lt
  have hvalue : value < 2 ^ (size.exponent + (53 : ℕ)) :=
    scaled_lt _ hmantissa (by linarith)
  rcases hsize.normal with hnormal | hleast
  · rcases Nat.eq_or_lt_of_le hnormal with heq | hlt
    · by_cases hpower : (2 : ℚ) ^ (size.exponent + 52) ≤ value
      · exact .inl ⟨hsize.le_exponent, hvalue, .inr hpower⟩
      · rcases Int.lt_or_eq_of_le hsize.le_exponent with hexponent | hexponent
        · -- the value lies below the power of two, where the last place is half as large
          have hquarter : size.below = 1 / 4 := by
            rw [below, if_pos ⟨heq.symm, hexponent⟩]
          have hcast : (size.mantissa : ℚ) = 2 ^ 52 := by exact_mod_cast heq.symm
          have hhalf : value / 2 ^ (size.exponent - 1) = 2 * (value / 2 ^ size.exponent) := by
            rw [zpow_sub_one₀ (by norm_num)]
            have hpos := two_zpow_pos size.exponent
            field_simp
          have hpower' : value / 2 ^ size.exponent < 2 ^ 52 := by
            rw [div_lt_iff₀ (two_zpow_pos size.exponent), mul_comm, ← zpow_natCast,
              ← zpow_add₀ (by norm_num : (2 : ℚ) ≠ 0)]
            exact not_le.mp hpower
          rw [hquarter, hcast] at hlower
          have hvalue' : value < 2 ^ (size.exponent - 1 + (53 : ℕ)) :=
            scaled_lt (2 ^ 53) le_rfl (by rw [hhalf]; linarith)
          have hle : (2 : ℚ) ^ (size.exponent - 1 + (52 : ℕ)) ≤ value :=
            le_scaled (2 ^ 52) le_rfl (by rw [hhalf]; linarith)
          refine .inr ⟨heq.symm, ⟨by omega, hvalue', .inr hle⟩, ?_⟩
          rw [hhalf]
          by_cases htie : 2 * (value / 2 ^ size.exponent) = 2 ^ 53 - 1 / 2
          · exact .inr ⟨.inl (by exact_mod_cast htie), by norm_num⟩
          · left
            push_cast
            exact ⟨lt_of_le_of_ne (by linarith) (Ne.symm htie), by linarith⟩
        · exact .inl ⟨hsize.le_exponent, hvalue, .inl hexponent.symm⟩
    · have hmore : (2 : ℚ) ^ 52 + 1 ≤ size.mantissa := by exact_mod_cast hlt
      have hle : (2 : ℚ) ^ (size.exponent + (52 : ℕ)) ≤ value :=
        le_scaled (size.mantissa - size.below) (by linarith) hlower
      exact .inl ⟨hsize.le_exponent, hvalue, .inr hle⟩
  · exact .inl ⟨hsize.le_exponent, hvalue, .inl hleast⟩

end Magnitude

/-! ### Rounding gives the magnitude -/

/-- The exact value is at or above the mantissa and below the next one. -/
theorem Represents.bounds {extended : ExtendedMantissa} {x : ℚ} (h : Represents extended x) :
    (extended.mantissa : ℚ) ≤ x ∧ x < extended.mantissa + 1 := by
  obtain ⟨mantissa, round, sticky⟩ := extended
  cases round <;> cases sticky <;> simp only [Represents] at h ⊢ <;> constructor <;> linarith

/-- An accuracy leaves the mantissa alone. -/
theorem mantissa_ofMantissaAndAccuracy (mantissa : ℕ) (accuracy : Accuracy) :
    (ExtendedMantissa.ofMantissaAndAccuracy mantissa accuracy).mantissa = mantissa := by
  rcases accuracy with _ | ⟨_ | _ | _⟩ <;> rfl

/-- A canonical mantissa is at its target exponent. -/
theorem Magnitude.IsCanonical.shift_eq {size : Magnitude} (hsize : size.IsCanonical)
    (hpos : 0 < size.mantissa) :
    shiftToTargetExponent Format.binary64 size.mantissa size.exponent .exact =
      (⟨size.mantissa, false, false⟩, size.exponent) := by
  have hleast := hsize.le_exponent
  have htarget : Format.binary64.targetExponent (totalExponent size.mantissa size.exponent) =
      size.exponent := by
    change max ((size.mantissa.log2 : ℤ) + 1 + size.exponent - 53) (-1074) = size.exponent
    have hlog : size.mantissa.log2 < 53 :=
      (Nat.log2_lt (Nat.ne_of_gt hpos)).mpr hsize.mantissa_lt
    rcases hsize.normal with hnormal | hexponent
    · have hle : 52 ≤ size.mantissa.log2 := (Nat.le_log2 (Nat.ne_of_gt hpos)).mpr hnormal
      omega
    · omega
  unfold shiftToTargetExponent
  rw [htarget]
  simp only [shiftToExponent, sub_self, Int.toNat_zero, Nat.cast_zero, add_zero]
  rfl

/-- A mantissa that has grown to a power of two moves to the exponent above. -/
theorem shift_power (exponent : ℤ) (h : -1074 ≤ exponent) :
    shiftToTargetExponent Format.binary64 (2 ^ 53) exponent .exact =
      (⟨2 ^ 52, false, false⟩, exponent + 1) := by
  have htarget : Format.binary64.targetExponent (totalExponent (2 ^ 53) exponent) =
      exponent + 1 := by
    have hlog : Nat.log2 (2 ^ 53) = 53 := Nat.log2_two_pow
    change max (((2 ^ 53 : ℕ).log2 : ℤ) + 1 + exponent - 53) (-1074) = exponent + 1
    rw [hlog]
    omega
  unfold shiftToTargetExponent
  rw [htarget]
  simp only [shiftToExponent, add_sub_cancel_left, Int.toNat_one, Nat.cast_one]
  rfl

/-- Rounding a value that reads as a magnitude gives this magnitude. The value is given by a
mantissa with what is known of its accuracy, at an exponent that is not too large. -/
theorem roundWithAccuracy_eq {size : Magnitude} (hsize : size.IsCanonical)
    (hpos : 0 < size.mantissa) {value : ℚ} (hreads : size.Reads value) {mantissa : ℕ}
    {exponent : ℤ} {accuracy : Accuracy}
    (hvalue : Represents (.ofMantissaAndAccuracy mantissa accuracy) (value / 2 ^ exponent))
    (htarget : exponent ≤ Format.binary64.targetExponent (totalExponent mantissa exponent))
    (sign : Sign) :
    roundWithAccuracy Format.binary64 sign mantissa exponent accuracy =
      .finite sign size.mantissa size.exponent hpos := by
  have hbounds := hvalue.bounds
  rw [mantissa_ofMantissaAndAccuracy, le_div_iff₀ (two_zpow_pos exponent),
    div_lt_iff₀ (two_zpow_pos exponent)] at hbounds
  have hscale := isScale_target hbounds.1 hbounds.2 htarget
  generalize hsteps : Format.binary64.targetExponent (totalExponent mantissa exponent) = target
    at htarget hscale
  obtain ⟨steps, rfl⟩ := Int.le.dest htarget
  have hshifted := (hvalue.shiftRight steps).roundsTo
  rw [div_div, ← zpow_natCast, ← zpow_add₀ (by norm_num : (2 : ℚ) ≠ 0)] at hshifted
  have hfirst : shiftToTargetExponent Format.binary64 mantissa exponent accuracy =
      (ExtendedMantissa.ofMantissaAndAccuracy mantissa accuracy >>> steps, exponent + steps) := by
    unfold shiftToTargetExponent
    rw [hsteps]
    simp only [shiftToExponent, add_sub_cancel_left, Int.toNat_natCast]
  unfold roundWithAccuracy
  simp only [hfirst]
  rcases hreads.scale hsize with hsame | ⟨hpower, hlower, hrounds⟩
  · have hexponent := hscale.unique hsame
    rw [hexponent] at hshifted
    have hrounded := hshifted.unique hreads.roundsTo
    simp only [hrounded, hexponent, hsize.shift_eq hpos, dif_neg (Nat.ne_of_gt hpos)]
  · have hexponent := hscale.unique hlower
    rw [hexponent] at hshifted
    have hrounded := hshifted.unique hrounds
    simp only [hrounded, hexponent, shift_power _ hlower.least, sub_add_cancel, hpower]
    rw [dif_neg (by norm_num)]

end ShapeLisp.Number
