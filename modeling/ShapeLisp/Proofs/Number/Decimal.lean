import Mathlib
import ShapeLisp.Number.Numeral
import ShapeLisp.Proofs.Number.Rounding

/-!
# Reading decimals

A decimal whose value reads as a magnitude is read as the number with this magnitude. Decimals are
read as products and quotients with powers of ten, which are rounded once; small ones with exact
powers of ten, the others on arbitrarily large mantissas. Whatever its size, a decimal is read as a
number, which may be infinite.
-/

namespace ShapeLisp.Number

open Float.Model Float.Model.UnpackedFloat

/-! ### Products and quotients -/

section Operations

variable {size : Magnitude} (hsize : size.IsCanonical) (hpos : 0 < size.mantissa)
variable {value : ℚ} (hreads : size.Reads value)
include hsize hreads

/-- A mantissa with enough bits that is the value itself is rounded to the magnitude. -/
theorem roundWithAccuracy_exact {mantissa : ℕ} {exponent : ℤ}
    (hvalue : value = mantissa * 2 ^ exponent) (hlarge : 2 ^ 52 ≤ mantissa) (sign : Sign) :
    roundWithAccuracy Format.binary64 sign mantissa exponent .exact =
      .finite sign size.mantissa size.exponent hpos := by
  have hne : mantissa ≠ 0 := by
    intro hzero
    rw [hzero] at hlarge
    exact absurd hlarge (by norm_num)
  have hlog : 52 ≤ mantissa.log2 := (Nat.le_log2 hne).mpr hlarge
  apply roundWithAccuracy_eq hsize hpos hreads
  · have hpower := two_zpow_pos exponent
    change value / 2 ^ exponent = mantissa
    rw [hvalue]
    field_simp
  · change exponent ≤ max ((mantissa.log2 : ℤ) + 1 + exponent - 53) (-1074)
    omega

/-- A product that reads as a magnitude. -/
theorem mul_eq (sign sign' : Sign) {m n : ℕ} {e f : ℤ} (hm : 0 < m) (hn : 0 < n)
    (hvalue : value = (m * 2 ^ e) * (n * 2 ^ f)) (hlarge : 2 ^ 52 ≤ m * n) :
    mul Format.binary64 (.finite sign m e hm) (.finite sign' n f hn) =
      .finite (sign * sign') size.mantissa size.exponent hpos := by
  have hproduct : value = (m * n : ℕ) * 2 ^ (e + f) := by
    rw [hvalue, zpow_add₀ (by norm_num : (2 : ℚ) ≠ 0)]
    push_cast
    ring
  exact roundWithAccuracy_exact hsize hpos hreads hproduct hlarge _

omit hsize hreads in
/-- The accuracy of a whole quotient tells where the exact quotient lies. -/
theorem represents_quotient (m : ℕ) {n : ℕ} (hn : 0 < n) :
    Represents (.ofMantissaAndAccuracy (m / n) (accuracyOfFraction (m % n) n))
      ((m : ℚ) / n) := by
  have hn' : (0 : ℚ) < n := by exact_mod_cast hn
  have hsplit : (m : ℚ) = n * (m / n : ℕ) + (m % n : ℕ) := by
    exact_mod_cast (Nat.div_add_mod m n).symm
  have hquotient : (m : ℚ) / n = (m / n : ℕ) + ((m % n : ℕ) : ℚ) / n := by
    rw [div_eq_iff hn'.ne', add_mul, div_mul_cancel₀ _ hn'.ne']
    linarith
  have hrest : m % n < n := Nat.mod_lt m hn
  rw [hquotient]
  generalize m % n = rest at hrest
  have hrest' : (rest : ℚ) / n < 1 := by
    rw [div_lt_one hn']
    exact_mod_cast hrest
  unfold accuracyOfFraction
  split
  · next hzero => simp [hzero, ExtendedMantissa.ofMantissaAndAccuracy, Represents]
  · next hzero =>
    have hpositive : 0 < (rest : ℚ) / n := by
      have : (0 : ℚ) < rest := by exact_mod_cast Nat.pos_of_ne_zero hzero
      positivity
    rcases Nat.lt_trichotomy (2 * rest) n with hlt | heq | hgt
    · have hhalf : (rest : ℚ) / n < 1 / 2 := by
        rw [div_lt_iff₀ hn']
        have : (2 : ℚ) * rest < n := by exact_mod_cast hlt
        linarith
      rw [Nat.compare_eq_lt.mpr hlt]
      exact ⟨by linarith, by linarith⟩
    · have hhalf : (rest : ℚ) / n = 1 / 2 := by
        rw [div_eq_iff hn'.ne']
        have : (2 : ℚ) * rest = n := by exact_mod_cast heq
        linarith
      rw [Nat.compare_eq_eq.mpr heq, hhalf]
      rfl
    · have hhalf : 1 / 2 < (rest : ℚ) / n := by
        rw [lt_div_iff₀ hn']
        have : (n : ℚ) < 2 * rest := by exact_mod_cast hgt
        linarith
      rw [Nat.compare_eq_gt.mpr hgt]
      exact ⟨by linarith, by linarith⟩

/-- A quotient that reads as a magnitude. -/
theorem div_eq (sign sign' : Sign) {m n : ℕ} {e f : ℤ} (hm : 0 < m) (hn : 0 < n)
    (hvalue : value = (m * 2 ^ e) / (n * 2 ^ f)) :
    div Format.binary64 (.finite sign m e hm) (.finite sign' n f hn) =
      .finite (sign / sign') size.mantissa size.exponent hpos := by
  have hn' : (0 : ℚ) < n := by exact_mod_cast hn
  generalize htarget : min (e - f)
    (Format.binary64.targetExponent (totalExponent m e - totalExponent n f)) = target
  have hle : target ≤ e - f := htarget ▸ min_le_left ..
  obtain ⟨steps, hsteps⟩ := Int.le.dest hle
  have hcore : divCore Format.binary64 m e n f =
      ((m <<< steps) / n, target, accuracyOfFraction ((m <<< steps) % n) n) := by
    have hshift : (e - f - target).toNat = steps := by omega
    unfold divCore
    simp only [htarget, hshift]
  have hround : div Format.binary64 (.finite sign m e hm) (.finite sign' n f hn) =
      roundWithAccuracy Format.binary64 (sign / sign') ((m <<< steps) / n) target
        (accuracyOfFraction ((m <<< steps) % n) n) := by
    simp only [UnpackedFloat.div, hcore]
  rw [hround]
  apply roundWithAccuracy_eq hsize hpos hreads
  · have hquotient : value / 2 ^ target = ((m <<< steps : ℕ) : ℚ) / n := by
      rw [hvalue, Nat.shiftLeft_eq]
      push_cast
      have hpower : (2 : ℚ) ^ e = 2 ^ target * 2 ^ f * 2 ^ steps := by
        rw [← zpow_natCast, ← zpow_add₀ (by norm_num), ← zpow_add₀ (by norm_num)]
        congr 1
        omega
      rw [hpower]
      have htwo := two_zpow_pos target
      have htwo' := two_zpow_pos f
      field_simp
    rw [hquotient]
    exact represents_quotient _ hn
  · -- the shifted mantissa leaves at least 53 bits in the quotient unless the result is tiny
    change target ≤ max ((((m <<< steps) / n).log2 : ℤ) + 1 + target - 53) (-1074)
    rcases le_or_gt target (-1074) with hsmall | hlarge
    · exact le_max_of_le_right hsmall
    · have hbits : target ≤ ((m.log2 : ℤ) + 1 + e) - ((n.log2 : ℤ) + 1 + f) - 53 := by
        have hmin : target ≤ max (((m.log2 : ℤ) + 1 + e) - ((n.log2 : ℤ) + 1 + f) - 53) (-1074) :=
          htarget ▸ min_le_right ..
        omega
      have henough : 2 ^ 52 * n ≤ m <<< steps := by
        have hmlog : 2 ^ m.log2 ≤ m := Nat.log2_self_le hm.ne'
        have hnlog : n < 2 ^ (n.log2 + 1) := Nat.lt_log2_self
        have hexponent : n.log2 + 53 ≤ m.log2 + steps := by omega
        calc 2 ^ 52 * n ≤ 2 ^ 52 * 2 ^ (n.log2 + 1) := by gcongr
          _ = 2 ^ (n.log2 + 53) := by rw [← pow_add]; congr 1; omega
          _ ≤ 2 ^ (m.log2 + steps) := Nat.pow_le_pow_right (by norm_num) hexponent
          _ = 2 ^ m.log2 * 2 ^ steps := pow_add ..
          _ ≤ m * 2 ^ steps := by gcongr
          _ = m <<< steps := (Nat.shiftLeft_eq ..).symm
      have hquotient : 2 ^ 52 ≤ (m <<< steps) / n := (Nat.le_div_iff_mul_le hn).mpr henough
      have hne : (m <<< steps) / n ≠ 0 := by
        intro hzero
        rw [hzero] at hquotient
        exact absurd hquotient (by norm_num)
      have hlog : 52 ≤ ((m <<< steps) / n).log2 := (Nat.le_log2 hne).mpr hquotient
      omega

/-- A decimal that reads as a magnitude, computed on large mantissas. The exponent must not be so
far out that it is decided without a computation. -/
theorem ofScientific_eq {digits : ℕ} (hdigits : 0 < digits) {exponent : ℤ}
    (hvalue : value = digits * 10 ^ exponent) (hhigh : exponent ≤ 2048)
    (hlow : -(2048 + (digits.log2 : ℤ)) ≤ exponent) :
    UnpackedFloat.ofScientific Format.binary64 digits exponent =
      .finite .positive size.mantissa size.exponent hpos := by
  have hbits : ((2 : ℤ) ^ Format.binary64.exponentBits) = 2048 := rfl
  have hwidth : Format.binary64.mantissaBits = 53 := rfl
  unfold UnpackedFloat.ofScientific
  rw [dif_neg hdigits.ne', hbits, if_neg (by omega), if_neg (by omega)]
  split
  · next hsign =>
    obtain ⟨power, rfl⟩ := Int.eq_ofNat_of_zero_le hsign
    apply mul_eq hsize hpos hreads .positive .positive
    · rw [hvalue, hwidth, Nat.shiftLeft_eq]
      push_cast
      norm_num
      ring
    · have hpower : 1 ≤ 10 ^ (power : ℤ).toNat := Nat.one_le_pow _ _ (by norm_num)
      rw [hwidth, Nat.shiftLeft_eq]
      calc 2 ^ 52 ≤ digits * 2 ^ 53 * 1 := by omega
        _ ≤ digits * 2 ^ 53 * 10 ^ (power : ℤ).toNat := by gcongr
  · next hsign =>
    obtain ⟨power, hpower⟩ := Int.eq_ofNat_of_zero_le (show 0 ≤ -exponent by omega)
    apply div_eq hsize hpos hreads .positive .positive
    rw [hvalue, hpower, show exponent = -(power : ℤ) by omega]
    push_cast
    rw [zpow_neg, zpow_natCast]
    norm_num
    rfl

end Operations

/-! ### Exact factors -/

/-- The value of a magnitude. -/
def Magnitude.value (size : Magnitude) : ℚ := size.mantissa * 2 ^ size.exponent

/-- A magnitude itself reads as it. -/
theorem Magnitude.reads_value (size : Magnitude) : size.Reads size.value := by
  have hpower := two_zpow_pos size.exponent
  have hbelow := below_bounds size
  have hunits : size.value / 2 ^ size.exponent = size.mantissa := by
    rw [value]
    field_simp
  constructor
  · linarith
  · linarith
  · intro _
    constructor <;> linarith

namespace Magnitude

variable {size : Magnitude}

/-- A magnitude is not negative. -/
theorem value_nonneg (size : Magnitude) : 0 ≤ size.value :=
  mul_nonneg (Nat.cast_nonneg _) (two_zpow_pos _).le

/-- A magnitude with a positive mantissa is positive. -/
theorem value_pos (h : 0 < size.mantissa) : 0 < size.value :=
  mul_pos (by exact_mod_cast h) (two_zpow_pos _)

/-- At an exponent that is not negative the value is a whole number. -/
theorem value_of_nonneg (h : 0 ≤ size.exponent) :
    size.value = (size.mantissa * 2 ^ size.exponent.toNat : ℕ) := by
  obtain ⟨shift, hshift⟩ := Int.eq_ofNat_of_zero_le h
  rw [value, hshift, Int.toNat_natCast, zpow_natCast]
  push_cast
  rfl

/-- At a negative exponent the mantissa is the value scaled up. -/
theorem value_of_neg (h : size.exponent < 0) :
    size.value * (2 ^ (-size.exponent).toNat : ℕ) = size.mantissa := by
  obtain ⟨shift, hshift⟩ := Int.eq_ofNat_of_zero_le (show 0 ≤ -size.exponent by omega)
  have hpos : (0 : ℚ) < 2 ^ shift := by positivity
  rw [value, hshift, Int.toNat_natCast, show size.exponent = -(shift : ℤ) by omega, zpow_neg,
    zpow_natCast]
  push_cast
  field_simp

/-- A magnitude without a fractional part is its whole number. -/
theorem value_eq_whole (h : size.isWhole = true) : size.value = size.whole := by
  unfold whole
  split
  · next hexponent => exact value_of_nonneg hexponent
  · next hexponent =>
    have hvalue := value_of_neg (not_le.mp hexponent)
    have hpos : (0 : ℚ) < (2 ^ (-size.exponent).toNat : ℕ) := by positivity
    have hdvd : 2 ^ (-size.exponent).toNat ∣ size.mantissa := by
      simpa [isWhole, hexponent, Nat.dvd_iff_mod_eq_zero] using h
    rw [← mul_left_inj' hpos.ne', hvalue]
    exact_mod_cast (Nat.div_mul_cancel hdvd).symm

end Magnitude

/-- The magnitude of a whole number below two to the fifty-third. -/
def wholeMagnitude (n : ℕ) : Magnitude := ⟨n <<< (52 - n.log2), (n.log2 : ℤ) - 52⟩

section Whole

variable {n : ℕ} (hpos : 0 < n) (hlt : n < 2 ^ 53)
include hpos

/-- The mantissa of a whole number has all its bits. -/
theorem le_wholeMagnitude (hlt : n < 2 ^ 53) : 2 ^ 52 ≤ (wholeMagnitude n).mantissa := by
  have hlog : n.log2 < 53 := (Nat.log2_lt hpos.ne').mpr hlt
  have hself : 2 ^ n.log2 ≤ n := Nat.log2_self_le hpos.ne'
  rw [wholeMagnitude, Nat.shiftLeft_eq]
  calc 2 ^ 52 = 2 ^ n.log2 * 2 ^ (52 - n.log2) := by rw [← pow_add]; congr 1; omega
    _ ≤ n * 2 ^ (52 - n.log2) := by gcongr

include hlt

/-- The magnitude of a whole number is canonical. -/
theorem isCanonical_wholeMagnitude : (wholeMagnitude n).IsCanonical where
  mantissa_lt := by
    have hlog : n.log2 < 53 := (Nat.log2_lt hpos.ne').mpr hlt
    have hself : n < 2 ^ (n.log2 + 1) := Nat.lt_log2_self
    rw [wholeMagnitude, Nat.shiftLeft_eq]
    calc n * 2 ^ (52 - n.log2) < 2 ^ (n.log2 + 1) * 2 ^ (52 - n.log2) := by gcongr
      _ = 2 ^ 53 := by rw [← pow_add]; congr 1; omega
  le_exponent := by
    change -1074 ≤ (n.log2 : ℤ) - 52
    omega
  exponent_le := by
    have hlog : n.log2 < 53 := (Nat.log2_lt hpos.ne').mpr hlt
    change (n.log2 : ℤ) - 52 ≤ 971
    omega
  normal := .inl (le_wholeMagnitude hpos hlt)

/-- The magnitude of a whole number has its value. -/
theorem value_wholeMagnitude : (wholeMagnitude n).value = n := by
  have hlog : n.log2 < 53 := (Nat.log2_lt hpos.ne').mpr hlt
  have hexponent : (n.log2 : ℤ) - 52 = -((52 - n.log2 : ℕ) : ℤ) := by omega
  rw [Magnitude.value, wholeMagnitude, Nat.shiftLeft_eq, hexponent, zpow_neg, zpow_natCast]
  push_cast
  have htwo : (0 : ℚ) < 2 ^ (52 - n.log2) := by positivity
  field_simp

/-- A whole number is converted exactly. -/
theorem unpack_toFloat : n.toUInt64.toFloat.toModel.unpack =
    .finite .positive (wholeMagnitude n).mantissa (wholeMagnitude n).exponent
      (Nat.lt_of_lt_of_le (by norm_num) (le_wholeMagnitude hpos hlt)) := by
  have hlog : n.log2 < 53 := (Nat.log2_lt hpos.ne').mpr hlt
  have hlarge := le_wholeMagnitude hpos hlt
  have hcanonical := isCanonical_wholeMagnitude hpos hlt
  have hmantissa : 0 < (wholeMagnitude n).mantissa := Nat.lt_of_lt_of_le (by norm_num) hlarge
  have hnat : n.toUInt64.toNat = n := by
    rw [Nat.toUInt64_eq, UInt64.toNat_ofNat_of_lt']
    exact Nat.lt_trans hlt (by norm_num [UInt64.size])
  have hround : UnpackedFloat.ofUInt64 Format.binary64 n.toUInt64 =
      .finite .positive (wholeMagnitude n).mantissa (wholeMagnitude n).exponent hmantissa := by
    have hcompare : compare (n : ℤ) 0 = .gt := by
      rw [compare_gt_iff_gt]
      exact_mod_cast hpos
    have htarget : Format.binary64.targetExponent (totalExponent n 0) = (n.log2 : ℤ) - 52 := by
      change max ((n.log2 : ℤ) + 1 + 0 - 53) (-1074) = _
      omega
    have hshift : ((0 : ℤ) - ((n.log2 : ℤ) - 52)).toNat = 52 - n.log2 := by omega
    have hexponent : (0 : ℤ) - ((52 - n.log2 : ℕ) : ℤ) = (n.log2 : ℤ) - 52 := by omega
    unfold UnpackedFloat.ofUInt64 UnpackedFloat.ofNat UnpackedFloat.ofInt UnpackedFloat.normalize
    rw [hnat, hcompare]
    simp only [UnpackedFloat.round, Int.toNat_natCast, htarget, decreaseExponent, hshift, hexponent]
    exact roundWithAccuracy_exact hcanonical hmantissa (wholeMagnitude n).reads_value rfl hlarge _
  have hfloat : n.toUInt64.toFloat = ofMagnitude false (wholeMagnitude n) hmantissa := by
    change Float.ofModel (Float.Model.pack (UnpackedFloat.ofUInt64 Format.binary64 n.toUInt64)) = _
    rw [hround]
    rfl
  rw [hfloat]
  exact unpack_ofMagnitude hcanonical hmantissa false

end Whole

/-- The powers of ten in the table are exact. -/
theorem powersOfTen_exact : ∀ power : Fin 23,
    let x := Float.exactlyRepresentablePowersOfTen[power]
    x.isFinite = true ∧ isNegative x = false ∧ 2 ^ 52 ≤ (magnitude x).mantissa ∧
      -52 ≤ (magnitude x).exponent ∧
      (magnitude x).mantissa * 2 ^ ((magnitude x).exponent + 52).toNat =
        10 ^ (power : ℕ) * 2 ^ 52 := by
  decide +kernel

section Floats

variable {size : Magnitude} (hsize : size.IsCanonical) (hpos : 0 < size.mantissa)
variable {value : ℚ} (hreads : size.Reads value) {x y : Float} {m n : ℕ} {e f : ℤ}
variable {hm : 0 < m} {hn : 0 < n} (hx : x.toModel.unpack = .finite .positive m e hm)
variable (hy : y.toModel.unpack = .finite .positive n f hn)
include hsize hreads hx hy

/-- A product of positive numbers that reads as a magnitude. -/
theorem float_mul_eq (hvalue : value = (m * 2 ^ e) * (n * 2 ^ f)) (hlarge : 2 ^ 52 ≤ m * n) :
    x * y = ofMagnitude false size hpos := by
  change Float.ofModel (Float.Model.pack
    (UnpackedFloat.mul Format.binary64 x.toModel.unpack y.toModel.unpack)) = _
  rw [hx, hy, mul_eq hsize hpos hreads .positive .positive hm hn hvalue hlarge]
  rfl

/-- A quotient of positive numbers that reads as a magnitude. -/
theorem float_div_eq (hvalue : value = (m * 2 ^ e) / (n * 2 ^ f)) :
    x / y = ofMagnitude false size hpos := by
  change Float.ofModel (Float.Model.pack
    (UnpackedFloat.div Format.binary64 x.toModel.unpack y.toModel.unpack)) = _
  rw [hx, hy, div_eq hsize hpos hreads .positive .positive hm hn hvalue]
  rfl

end Floats

/-- A power of ten of the table unpacks to a mantissa with all its bits and has its value. -/
theorem unpack_powerOfTen (power : Fin 23) :
    ∃ mantissa exponent hpos, Float.exactlyRepresentablePowersOfTen[power].toModel.unpack =
      .finite .positive mantissa exponent hpos ∧ 2 ^ 52 ≤ mantissa ∧
      (mantissa : ℚ) * 2 ^ exponent = 10 ^ (power : ℕ) := by
  obtain ⟨hfinite, hsign, hlarge, hexponent, hproduct⟩ := powersOfTen_exact power
  generalize Float.exactlyRepresentablePowersOfTen[power] = x at *
  have hpos : 0 < (magnitude x).mantissa := Nat.lt_of_lt_of_le (by norm_num) hlarge
  refine ⟨(magnitude x).mantissa, (magnitude x).exponent, hpos, ?_, hlarge, ?_⟩
  · rw [unpack_eq_finite x hfinite hpos, hsign]
    rfl
  · obtain ⟨shift, hshift⟩ := Int.le.dest hexponent
    have hnat : ((magnitude x).exponent + 52).toNat = shift := by omega
    have hcast : ((magnitude x).mantissa : ℚ) * 2 ^ shift = 10 ^ (power : ℕ) * 2 ^ 52 := by
      rw [hnat] at hproduct
      exact_mod_cast hproduct
    rw [← hshift, zpow_add₀ (by norm_num : (2 : ℚ) ≠ 0), zpow_natCast, ← mul_assoc,
      mul_right_comm, hcast]
    norm_num
    ring

/-- A decimal that reads as a magnitude is read as the number with this magnitude. -/
theorem float_ofScientific_eq {size : Magnitude} (hsize : size.IsCanonical)
    (hpos : 0 < size.mantissa) {digits : ℕ} (hdigits : 0 < digits) {exponent : ℤ}
    (hreads : size.Reads (digits * 10 ^ exponent)) (hhigh : exponent ≤ 2048)
    (hlow : -(2048 + (digits.log2 : ℤ)) ≤ exponent) :
    Float.ofScientific digits (exponent < 0) exponent.natAbs = ofMagnitude false size hpos := by
  unfold Float.ofScientific
  split
  · next hfast =>
    obtain ⟨hsmall, hpower⟩ := hfast
    obtain ⟨mantissa, tenExponent, hten, hunpack, hlarge, hvalue⟩ :=
      unpack_powerOfTen ⟨exponent.natAbs, by omega⟩
    have hwhole := unpack_toFloat hdigits hsmall
    have hwholeLarge := le_wholeMagnitude hdigits hsmall
    have hwholeValue := value_wholeMagnitude hdigits hsmall
    unfold Magnitude.value at hwholeValue
    dsimp only at hvalue
    split
    · next hnegative =>
      have hneg : exponent < 0 := of_decide_eq_true hnegative
      apply float_div_eq hsize hpos hreads hwhole hunpack
      rw [hwholeValue, hvalue, ← zpow_natCast, div_eq_mul_inv, ← zpow_neg]
      congr 2
      omega
    · next hnegative =>
      have hneg : 0 ≤ exponent := not_lt.mp (of_decide_eq_false (by simpa using hnegative))
      apply float_mul_eq hsize hpos hreads hwhole hunpack
      · rw [hwholeValue, hvalue, ← zpow_natCast]
        congr 2
        omega
      · calc 2 ^ 52 ≤ 2 ^ 52 * 2 ^ 52 := by norm_num
          _ ≤ _ := Nat.mul_le_mul hwholeLarge hlarge
  · have hexponent : (if decide (exponent < 0) = true then Int.negOfNat exponent.natAbs
        else Int.ofNat exponent.natAbs) = exponent := by
      simp only [decide_eq_true_eq]
      split
      · rw [Int.negOfNat_eq]
        change -(exponent.natAbs : ℤ) = exponent
        omega
      · change (exponent.natAbs : ℤ) = exponent
        omega
    simp only [hexponent, Float.Model.ofScientific]
    rw [ofScientific_eq hsize hpos hreads hdigits rfl hhigh hlow]
    rfl

/-! ### Decimals of any size -/

/-- A whole number has at least one digit. -/
theorem digitCount_pos (n : ℕ) : 0 < digitCount n := Nat.length_toDigits_pos

/-- A whole number is below the power of ten of its digit count. -/
theorem lt_pow_digitCount (n : ℕ) : n < 10 ^ digitCount n :=
  (Nat.length_toDigits_le_iff (by norm_num) (digitCount_pos n)).mp (Nat.le_refl _)

/-- A positive whole number is at least the power of ten of its leading digit. -/
theorem pow_digitCount_le {n : ℕ} (hn : 0 < n) : 10 ^ (digitCount n - 1) ≤ n := by
  rcases Nat.eq_zero_or_pos (digitCount n - 1) with hone | hmore
  · rw [hone]
    exact hn
  · by_contra hlt
    have hcount : digitCount n ≤ digitCount n - 1 :=
      (Nat.length_toDigits_le_iff (by norm_num) hmore).mpr (not_le.mp hlt)
    have hpos := digitCount_pos n
    omega

/-- A decimal lies between powers of ten. -/
theorem decimal_bounds {digits : ℕ} (hdigits : 0 < digits) (exponent : ℤ) :
    (10 : ℚ) ^ ((digitCount digits : ℤ) + exponent - 1) ≤ digits * 10 ^ exponent ∧
      (digits : ℚ) * 10 ^ exponent < 10 ^ ((digitCount digits : ℤ) + exponent) := by
  have hcount := digitCount_pos digits
  have hten : (0 : ℚ) < 10 ^ exponent := zpow_pos (by norm_num) exponent
  constructor
  · have hle : (10 : ℚ) ^ (digitCount digits - 1) ≤ digits := by
      exact_mod_cast pow_digitCount_le hdigits
    calc (10 : ℚ) ^ ((digitCount digits : ℤ) + exponent - 1)
        = 10 ^ (digitCount digits - 1) * 10 ^ exponent := by
          rw [← zpow_natCast, ← zpow_add₀ (by norm_num : (10 : ℚ) ≠ 0)]
          congr 1
          omega
      _ ≤ digits * 10 ^ exponent := by gcongr
  · have hlt : (digits : ℚ) < 10 ^ digitCount digits := by
      exact_mod_cast lt_pow_digitCount digits
    calc (digits : ℚ) * 10 ^ exponent < 10 ^ digitCount digits * 10 ^ exponent := by gcongr
      _ = 10 ^ ((digitCount digits : ℤ) + exponent) := by
        rw [zpow_add₀ (by norm_num : (10 : ℚ) ≠ 0), zpow_natCast]

/-- What reads as a magnitude is neither enormous nor tiny. -/
theorem Magnitude.Reads.bounds {size : Magnitude} (hsize : size.IsCanonical)
    (hpos : 0 < size.mantissa) {value : ℚ} (h : size.Reads value) :
    (2 : ℚ) ^ (-1075 : ℤ) ≤ value ∧ value < 2 ^ (1024 : ℤ) := by
  have hlower := h.lower
  have hupper := h.upper
  have hbelow := below_bounds size
  have hone : (1 : ℚ) ≤ size.mantissa := by exact_mod_cast hpos
  have hmantissa : (size.mantissa : ℚ) + 1 ≤ 2 ^ 53 := by exact_mod_cast hsize.mantissa_lt
  constructor
  · have hhalf : (2 : ℚ) ^ (size.exponent - 1) ≤ value := by
      rw [zpow_sub_one₀ (by norm_num)]
      have hle : (2 : ℚ)⁻¹ ≤ value / 2 ^ size.exponent := by norm_num; linarith
      rw [le_div_iff₀ (two_zpow_pos size.exponent)] at hle
      linarith
    have hleast := hsize.le_exponent
    exact le_trans (two_zpow_le (by omega)) hhalf
  · have hlt := scaled_lt _ hmantissa (show value / 2 ^ size.exponent < _ by linarith)
    have hgreatest := hsize.exponent_le
    exact lt_of_lt_of_le hlt (two_zpow_le (by push_cast; omega))

/-- The largest number is below the powers of ten that are decided by their size, and the smallest
is above their inverses. -/
theorem two_pow_lt_ten_pow :
    (2 : ℚ) ^ (1024 : ℤ) < 10 ^ (400 : ℤ) ∧ (10 : ℚ) ^ (-400 : ℤ) < 2 ^ (-1075 : ℤ) := by
  have hlarge : ((2 : ℚ) ^ 64) ^ 16 < (10 ^ 25) ^ 16 :=
    pow_lt_pow_left₀ (by norm_num) (by norm_num) (by norm_num)
  have hsmall : ((2 : ℚ) ^ 43) ^ 25 < (10 ^ 16) ^ 25 :=
    pow_lt_pow_left₀ (by norm_num) (by norm_num) (by norm_num)
  rw [← pow_mul, ← pow_mul, ← zpow_natCast, ← zpow_natCast] at hlarge hsmall
  constructor
  · exact hlarge
  · rw [zpow_neg, zpow_neg]
    exact inv_strictAnti₀ (two_zpow_pos 1075) hsmall

/-- A decimal that reads as the magnitude of a number is read as this number. -/
theorem ofDecimal_eq {x : Float} (hx : x.isFinite = true) (hpos : 0 < (magnitude x).mantissa)
    {digits : ℕ} (hdigits : 0 < digits) {exponent : ℤ}
    (hreads : (magnitude x).Reads (digits * 10 ^ exponent)) :
    ofDecimal (isNegative x) digits exponent = x := by
  have hsize := isCanonical_magnitude x hx
  obtain ⟨hleast, hgreatest⟩ := hreads.bounds hsize hpos
  obtain ⟨hlower, hupper⟩ := decimal_bounds hdigits exponent
  have hhigh : (digitCount digits : ℤ) + exponent ≤ 400 := by
    by_contra hlarge
    have hpower : (10 : ℚ) ^ (400 : ℤ) ≤ 10 ^ ((digitCount digits : ℤ) + exponent - 1) :=
      zpow_le_zpow_right₀ (by norm_num) (by omega)
    exact lt_irrefl _ (hgreatest.trans (two_pow_lt_ten_pow.1.trans_le (hpower.trans hlower)))
  have hlow : -400 ≤ (digitCount digits : ℤ) + exponent := by
    by_contra hsmall
    have hpower : (10 : ℚ) ^ ((digitCount digits : ℤ) + exponent) ≤ 10 ^ (-400 : ℤ) :=
      zpow_le_zpow_right₀ (by norm_num) (by omega)
    exact lt_irrefl _ (hupper.trans_le (hpower.trans (two_pow_lt_ten_pow.2.le.trans hleast)))
  have hbits : digitCount digits ≤ digits.log2 + 1 := by
    have hten : 10 ^ (digitCount digits - 1) ≤ digits := pow_digitCount_le hdigits
    have htwo : 2 ^ (digitCount digits - 1) ≤ digits :=
      le_trans (Nat.pow_le_pow_left (by norm_num) _) hten
    have hlog := (Nat.le_log2 hdigits.ne').mpr htwo
    omega
  have hcount := digitCount_pos digits
  unfold ofDecimal
  dsimp only
  rw [if_neg hdigits.ne', if_neg (by omega), if_neg (by omega),
    float_ofScientific_eq hsize hpos hdigits hreads (by omega) (by omega),
    withSign_ofMagnitude hsize hpos]
  exact ofMagnitude_eq hx rfl hpos

/-! ### Decimals are numbers -/

/-- Packing keeps numbers apart from what is not a number: a full exponent field is packed with an
empty fraction only. -/
theorem isNaN_pack {unpacked : UnpackedFloat} (h : unpacked.isNaN = false) :
    (Float.Model.pack unpacked).unpack.isNaN = false := by
  change (UnpackedFloat.unpack Format.binary64
    (UnpackedFloat.pack Format.binary64 unpacked)).isNaN = false
  have hcomponents : ∀ (sign : Sign) (exponent : BitVec 11) (fraction : BitVec 52),
      exponent ≠ -1#11 ∨ fraction = 0#52 →
        (UnpackedFloat.unpack Format.binary64
          (packComponents Format.binary64 sign exponent fraction)).isNaN = false := by
    intro sign exponent fraction hfields
    unfold UnpackedFloat.unpack
    simp only [unpackExponent_packComponents, unpackMantissa_packComponents]
    split
    · next hfull =>
      rw [if_pos (hfields.resolve_left fun hne => hne hfull)]
      rfl
    · split
      · split <;> rfl
      · rfl
  cases unpacked with
  | notANumber => cases h
  | infinity sign => exact hcomponents sign _ _ (.inr rfl)
  | zero sign => exact hcomponents sign _ _ (.inr rfl)
  | finite sign mantissa exponent hpos =>
    simp only [UnpackedFloat.pack]
    split
    · exact hcomponents sign _ _ (.inr rfl)
    · next hsmall =>
      split
      · refine hcomponents sign _ _ (.inl ?_)
        intro hfull
        have hfield := congrArg BitVec.toNat hfull
        rw [BitVec.toNat_ofNat] at hfield
        change _ = 2047 at hfield
        change ¬ 2 ^ 11 ≤ _ at hsmall
        change _ % 2 ^ 11 = 2047 at hfield
        omega
      · exact hcomponents sign _ _ (.inl (by decide))

/-- Rounding gives a number. -/
theorem isNaN_roundWithAccuracy (sign : Sign) (mantissa : ℕ) (exponent : ℤ) (accuracy : Accuracy) :
    (roundWithAccuracy Format.binary64 sign mantissa exponent accuracy).isNaN = false := by
  unfold roundWithAccuracy
  dsimp only
  split <;> rfl

/-- A number with a sign is a number. -/
theorem isNaN_withSign {x : Float} (h : x.isNaN = false) (negative : Bool) :
    (withSign negative x).isNaN = false := by
  cases negative with
  | false => exact h
  | true =>
    change (Float.Model.pack x.toModel.unpack.neg).unpack.isNaN = false
    apply isNaN_pack
    change x.toModel.unpack.isNaN = false at h
    revert h
    cases x.toModel.unpack <;> exact id

section Quotients

variable {x y : Float} {sign sign' : Sign} {m n : ℕ} {e f : ℤ} {hm : 0 < m} {hn : 0 < n}
variable (hx : x.toModel.unpack = .finite sign m e hm)
variable (hy : y.toModel.unpack = .finite sign' n f hn)
include hx hy

/-- A product of finite numbers other than zero is a number. -/
theorem isNaN_mul : (x * y).isNaN = false := by
  change (Float.Model.pack
    (UnpackedFloat.mul Format.binary64 x.toModel.unpack y.toModel.unpack)).unpack.isNaN = false
  rw [hx, hy]
  exact isNaN_pack (isNaN_roundWithAccuracy ..)

/-- A quotient of finite numbers other than zero is a number. -/
theorem isNaN_div : (x / y).isNaN = false := by
  change (Float.Model.pack
    (UnpackedFloat.div Format.binary64 x.toModel.unpack y.toModel.unpack)).unpack.isNaN = false
  rw [hx, hy]
  exact isNaN_pack (isNaN_roundWithAccuracy ..)

end Quotients

/-- A decimal with a large mantissa or a large power is a number. -/
theorem isNaN_model_ofScientific (digits : ℕ) (exponent : ℤ) :
    (Float.Model.ofScientific digits exponent).unpack.isNaN = false := by
  apply isNaN_pack
  unfold UnpackedFloat.ofScientific
  split
  · rfl
  split
  · rfl
  split
  · rfl
  split
  · exact isNaN_roundWithAccuracy ..
  · exact isNaN_roundWithAccuracy ..

/-- A decimal that is not zero is read as a number. -/
theorem isNaN_ofScientific {digits : ℕ} (hdigits : 0 < digits) (negative : Bool) (power : ℕ) :
    (Float.ofScientific digits negative power).isNaN = false := by
  unfold Float.ofScientific
  split
  · next hfast =>
    have hwhole := unpack_toFloat hdigits hfast.1
    obtain ⟨mantissa, exponent, hpos, hten, -, -⟩ :=
      unpack_powerOfTen ⟨power, Nat.lt_succ_of_le hfast.2⟩
    split
    · exact isNaN_div hwhole hten
    · exact isNaN_mul hwhole hten
  · exact isNaN_model_ofScientific digits _

/-- Every decimal is read as a number, which may be infinite. -/
theorem isNaN_ofDecimal (negative : Bool) (digits : ℕ) (exponent : ℤ) :
    (ofDecimal negative digits exponent).isNaN = false := by
  unfold ofDecimal
  apply isNaN_withSign
  split
  · decide +kernel
  · next hdigits =>
    split
    · decide +kernel
    split
    · decide +kernel
    · exact isNaN_ofScientific (Nat.pos_of_ne_zero hdigits) _ _

end ShapeLisp.Number
