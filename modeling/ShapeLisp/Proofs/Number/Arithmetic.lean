import Mathlib
import ShapeLisp.Proofs.Number.Order

/-!
# Arithmetic on numbers

Sums, differences, products and quotients of finite numbers are their exact results, rounded.
`Rounds` says that a number is a rounded value. A value has one rounded number, so a result that is
itself a number is exact; in particular whole numbers below two to the fifty-third are added and
multiplied exactly.
-/

namespace ShapeLisp.Number

open Float.Model Float.Model.UnpackedFloat

/-! ### Rounded values -/

/-- The number is the value, rounded: it has the sign of the value, and the size of the value reads
as its magnitude. -/
def Rounds (v : ℚ) (x : Float) : Prop :=
  ∃ size : Magnitude, ∃ hpos : 0 < size.mantissa,
    size.IsCanonical ∧ size.Reads |v| ∧ x = ofMagnitude (decide (v < 0)) size hpos

namespace Rounds

variable {v : ℚ} {x y : Float}

/-- A value is rounded to one number. -/
theorem unique (h : Rounds v x) (h' : Rounds v y) : x = y := by
  obtain ⟨size, hpos, hsize, hreads, rfl⟩ := h
  obtain ⟨size', hpos', hsize', hreads', rfl⟩ := h'
  obtain rfl := hreads.unique hsize hsize' hreads'
  rfl

/-- A number is its own value, rounded. -/
theorem self (hx : x.isFinite = true) (hne : toRat x ≠ 0) : Rounds (toRat x) x := by
  refine ⟨magnitude x, mantissa_pos hne, isCanonical_magnitude x hx, ?_, ?_⟩
  · rw [abs_toRat]
    exact Magnitude.reads_value _
  · rw [← isNegative_eq hne, ofMagnitude_eq hx rfl]

/-- A rounded value is finite. -/
theorem isFinite (h : Rounds v x) : x.isFinite = true := by
  obtain ⟨size, hpos, hsize, -, rfl⟩ := h
  exact (fields_ofMagnitude hsize hpos _).2.2

/-- A positive value is rounded to the value of a magnitude as which it reads. -/
theorem exists_reads (h : Rounds v x) (hv : 0 < v) :
    ∃ size : Magnitude, size.IsCanonical ∧ 0 < size.mantissa ∧ size.Reads v ∧
      toRat x = size.value := by
  obtain ⟨size, hpos, hsize, hreads, rfl⟩ := h
  obtain ⟨hsign, hmagnitude, -⟩ := fields_ofMagnitude hsize hpos (decide (v < 0))
  rw [abs_of_pos hv] at hreads
  refine ⟨size, hsize, hpos, hreads, ?_⟩
  rw [toRat, hsign, hmagnitude, if_neg (by simpa using hv.le)]

/-- A positive value is rounded to a positive number. -/
theorem toRat_pos (h : Rounds v x) (hv : 0 < v) : 0 < toRat x := by
  obtain ⟨size, -, hpos, -, hvalue⟩ := h.exists_reads hv
  rw [hvalue]
  exact Magnitude.value_pos hpos

variable {t : Magnitude} (ht : t.mantissa < 2 ^ 53) (hleast : -1074 ≤ t.exponent)
include ht hleast

/-- A positive value is not rounded below a magnitude that is not above it. -/
theorem le_toRat (h : Rounds v x) (hv : 0 < v) (hle : t.value ≤ v) : t.value ≤ toRat x := by
  obtain ⟨size, hsize, -, hreads, hvalue⟩ := h.exists_reads hv
  rw [hvalue]
  exact hreads.le_value hsize ht hleast hle

/-- A positive value is not rounded above a magnitude that is not below it. -/
theorem toRat_le (h : Rounds v x) (hv : 0 < v) (hle : v ≤ t.value) : toRat x ≤ t.value := by
  obtain ⟨size, hsize, -, hreads, hvalue⟩ := h.exists_reads hv
  rw [hvalue]
  exact hreads.value_le hsize ht hleast hle

omit ht hleast in
/-- A positive value lies at most half a unit of the last place above what it is rounded to. -/
theorem le_add_half (h : Rounds v x) (hv : 0 < v) {scale : ℤ} (hscale : -1074 ≤ scale)
    (hlt : toRat x < 2 ^ (scale + 53)) : v ≤ toRat x + 2 ^ scale / 2 := by
  obtain ⟨size, hsize, -, hreads, hvalue⟩ := h.exists_reads hv
  have hexponent : size.exponent ≤ scale := by
    by_contra hgt
    have hle : (2 : ℚ) ^ (scale + 53) ≤ size.value := by
      calc (2 : ℚ) ^ (scale + 53) ≤ 2 ^ (((52 : ℕ) : ℤ) + size.exponent) :=
            two_zpow_le (by push_cast; omega)
        _ = 2 ^ 52 * 2 ^ size.exponent := by rw [zpow_add₀ (by norm_num), zpow_natCast]
        _ ≤ size.value := hsize.le_value (lt_of_le_of_lt hscale (not_le.mp hgt))
    rw [hvalue] at hlt
    exact absurd hlt (not_lt.mpr hle)
  have hupper := hreads.upper
  have hpower := two_zpow_le hexponent
  have hself : size.value = size.mantissa * 2 ^ size.exponent := rfl
  rw [div_le_iff₀ (two_zpow_pos _), add_mul] at hupper
  rw [hvalue, hself]
  linarith

end Rounds

/-- A value that is neither tiny nor enormous. -/
structure IsNormal (v : ℚ) : Prop where
  /-- It is at least the least number with a leading one. -/
  le_abs : (2 : ℚ) ^ (-1022 : ℤ) ≤ |v|
  /-- It is far enough below the greatest number. -/
  abs_lt : |v| < 2 ^ (1023 : ℤ)

/-- Values of moderate size are normal. -/
theorem isNormal_of_le {v : ℚ} (hlow : (2 : ℚ) ^ (-64 : ℤ) ≤ |v|) (hhigh : |v| ≤ 2 ^ (64 : ℤ)) :
    IsNormal v where
  le_abs := le_trans (two_zpow_le (by norm_num)) hlow
  abs_lt := lt_of_le_of_lt hhigh (zpow_lt_zpow_right₀ (by norm_num) (by norm_num))

/-- A normal value is not zero. -/
theorem IsNormal.ne_zero {v : ℚ} (h : IsNormal v) : v ≠ 0 :=
  abs_pos.mp (lt_of_lt_of_le (two_zpow_pos _) h.le_abs)

/-! ### Sums -/

/-- Shifting a mantissa up moves its first bit. -/
theorem log2_shiftLeft {mantissa : ℕ} (h : 0 < mantissa) (shift : ℕ) :
    (mantissa <<< shift).log2 = mantissa.log2 + shift := by
  have hself : 2 ^ mantissa.log2 ≤ mantissa := Nat.log2_self_le h.ne'
  have hnext : mantissa < 2 ^ (mantissa.log2 + 1) := Nat.lt_log2_self
  have hpos : 0 < 2 ^ shift := Nat.two_pow_pos shift
  rw [Nat.shiftLeft_eq]
  refine (Nat.log2_eq_iff (Nat.mul_pos h hpos).ne').mpr ⟨?_, ?_⟩
  · rw [pow_add]
    exact Nat.mul_le_mul_right _ hself
  · calc mantissa * 2 ^ shift < 2 ^ (mantissa.log2 + 1) * 2 ^ shift := by gcongr
      _ = 2 ^ (mantissa.log2 + shift + 1) := by
        rw [← pow_add]
        congr 1
        omega

section Sums

variable {size : Magnitude} (hsize : size.IsCanonical) (hpos : 0 < size.mantissa)
include hsize

/-- A mantissa at any exponent is rounded to the magnitude as which it reads. -/
theorem round_eq {mantissa : ℕ} {exponent : ℤ} (hmantissa : 0 < mantissa)
    (hreads : size.Reads (mantissa * 2 ^ exponent)) (sign : Sign) :
    UnpackedFloat.round Format.binary64 sign mantissa exponent =
      .finite sign size.mantissa size.exponent hpos := by
  unfold UnpackedFloat.round
  generalize htarget : Format.binary64.targetExponent (totalExponent mantissa exponent) = target
  obtain ⟨shift, hshift⟩ : ∃ shift : ℕ, shift = (exponent - target).toNat := ⟨_, rfl⟩
  simp only [decreaseExponent, ← hshift]
  apply roundWithAccuracy_eq hsize hpos hreads
  · change _ = (_ : ℚ)
    have hpower := two_zpow_pos exponent
    rw [zpow_sub₀ (by norm_num), zpow_natCast, Nat.shiftLeft_eq]
    push_cast
    field_simp
  · -- the first bit keeps its place, and with it the target
    change max ((mantissa.log2 : ℤ) + 1 + exponent - 53) (-1074) = target at htarget
    change exponent - shift ≤ max (((mantissa <<< shift).log2 : ℤ) + 1 + (exponent - shift) - 53)
      (-1074)
    rw [log2_shiftLeft hmantissa]
    push_cast
    omega

/-- A whole number with a sign, at any exponent, is rounded to the magnitude as which its size
reads. -/
theorem normalize_eq {mantissa exponent : ℤ} {v : ℚ} (hvalue : v = mantissa * 2 ^ exponent)
    (hne : v ≠ 0) (hreads : size.Reads |v|) (zeroSign : Sign) :
    UnpackedFloat.normalize Format.binary64 mantissa exponent zeroSign =
      .finite (signOf (decide (v < 0))) size.mantissa size.exponent hpos := by
  have hpower := two_zpow_pos exponent
  rw [hvalue, abs_mul, abs_of_pos hpower] at hreads
  rcases lt_trichotomy mantissa 0 with hneg | hzero | hgt
  · have hcast : (mantissa : ℚ) < 0 := by exact_mod_cast hneg
    have hsign : v < 0 := hvalue ▸ mul_neg_of_neg_of_pos hcast hpower
    have hnat : |(mantissa : ℚ)| = ((-mantissa).toNat : ℕ) := by
      have hself : ((-mantissa).toNat : ℤ) = -mantissa := by omega
      rw [abs_of_neg hcast]
      exact_mod_cast hself.symm
    rw [hnat] at hreads
    rw [UnpackedFloat.normalize, compare_lt_iff_lt.mpr hneg, decide_eq_true hsign]
    exact round_eq hsize hpos (by omega) hreads _
  · rw [hzero, Int.cast_zero, zero_mul] at hvalue
    exact absurd hvalue hne
  · have hcast : (0 : ℚ) < mantissa := by exact_mod_cast hgt
    have hsign : ¬ v < 0 := not_lt.mpr (hvalue ▸ (mul_pos hcast hpower).le)
    have hnat : |(mantissa : ℚ)| = (mantissa.toNat : ℕ) := by
      have hself : (mantissa.toNat : ℤ) = mantissa := by omega
      rw [abs_of_pos hcast]
      exact_mod_cast hself.symm
    rw [hnat] at hreads
    rw [UnpackedFloat.normalize, compare_gt_iff_gt.mpr hgt, decide_eq_false hsign]
    exact round_eq hsize hpos (by omega) hreads _

end Sums

/-- Taking a mantissa to a lower exponent keeps its value with its sign. -/
theorem apply_shiftLeft (sign : Sign) (mantissa : ℕ) {exponent target : ℤ}
    (h : target ≤ exponent) :
    ((sign.apply (mantissa <<< (exponent - target).toNat : ℕ) : ℤ) : ℚ) * 2 ^ target =
      (sign.apply mantissa : ℤ) * 2 ^ exponent := by
  obtain ⟨shift, rfl⟩ := Int.le.dest h
  have hshift : (target + (shift : ℤ) - target).toNat = shift := by omega
  rw [hshift, Nat.shiftLeft_eq, zpow_add₀ (by norm_num), zpow_natCast]
  cases sign <;> simp only [Sign.apply] <;> push_cast <;> ring

/-- The value of a number by its sign, its mantissa and its exponent. -/
theorem toRat_eq (x : Float) : toRat x =
    ((signOf (isNegative x)).apply (magnitude x).mantissa : ℤ) * 2 ^ (magnitude x).exponent := by
  unfold toRat Magnitude.value
  cases isNegative x <;> simp [signOf, Sign.apply]

section Operands

variable {x y : Float} (hx : x.isFinite = true) (hy : y.isFinite = true)
include hx hy

/-- The sum of two numbers that are not zero is their exact sum as a whole number at the lesser of
their exponents, rounded. -/
theorem unpack_add (hne : toRat x ≠ 0) (hne' : toRat y ≠ 0) :
    ∃ mantissa exponent : ℤ, toRat x + toRat y = mantissa * 2 ^ exponent ∧
      UnpackedFloat.add Format.binary64 x.toModel.unpack y.toModel.unpack =
        UnpackedFloat.normalize Format.binary64 mantissa exponent .positive := by
  rw [unpack_eq_finite x hx (mantissa_pos hne), unpack_eq_finite y hy (mantissa_pos hne')]
  refine ⟨_, _, ?_, rfl⟩
  rw [Int.cast_add, add_mul, apply_shiftLeft _ _ (min_le_left _ _),
    apply_shiftLeft _ _ (min_le_right _ _), toRat_eq x, toRat_eq y]

/-- A zero added to a number that is not zero gives this number. -/
theorem add_eq_right (hzero : toRat x = 0) (hne : toRat y ≠ 0) : x + y = y := by
  rw [← ofMagnitude_eq hy rfl (mantissa_pos hne)]
  change Float.ofModel (Float.Model.pack
    (UnpackedFloat.add Format.binary64 x.toModel.unpack _)) = _
  rw [unpack_eq_zero x hx (toRat_eq_zero_iff.mp hzero),
    unpack_ofMagnitude (isCanonical_magnitude y hy)]
  rfl

/-- A number that is not zero keeps its value when a zero is added. -/
theorem add_eq_left (hne : toRat x ≠ 0) (hzero : toRat y = 0) : x + y = x := by
  rw [← ofMagnitude_eq hx rfl (mantissa_pos hne)]
  change Float.ofModel (Float.Model.pack
    (UnpackedFloat.add Format.binary64 _ y.toModel.unpack)) = _
  rw [unpack_eq_zero y hy (toRat_eq_zero_iff.mp hzero),
    unpack_ofMagnitude (isCanonical_magnitude x hx)]
  rfl

/-- A sum is rounded. -/
theorem rounds_add (h : IsNormal (toRat x + toRat y)) : Rounds (toRat x + toRat y) (x + y) := by
  have hsumne := h.ne_zero
  rcases eq_or_ne (toRat x) 0 with hzero | hne
  · rw [hzero, zero_add] at hsumne ⊢
    rw [add_eq_right hx hy hzero hsumne]
    exact .self hy hsumne
  rcases eq_or_ne (toRat y) 0 with hzero' | hne'
  · rw [add_eq_left hx hy hne hzero', hzero', add_zero]
    exact .self hx hne
  obtain ⟨mantissa, exponent, hvalue, hsum⟩ := unpack_add hx hy hne hne'
  obtain ⟨size, hpos, hsize, hreads⟩ := Magnitude.exists_reads h.le_abs h.abs_lt
  refine ⟨size, hpos, hsize, hreads, ?_⟩
  change Float.ofModel (Float.Model.pack (UnpackedFloat.add _ _ _)) = _
  rw [hsum, normalize_eq hsize hpos hvalue hsumne hreads]
  rfl

omit hx hy in
/-- A result that is negative when exactly one of the operands is has the product of their signs,
and their quotient. -/
theorem sign_eq {v : ℚ} (hne : toRat x ≠ 0) (hne' : toRat y ≠ 0)
    (hv : v < 0 ↔ 0 < toRat x ∧ toRat y < 0 ∨ toRat x < 0 ∧ 0 < toRat y) :
    signOf (isNegative x) * signOf (isNegative y) = signOf (decide (v < 0)) ∧
      signOf (isNegative x) / signOf (isNegative y) = signOf (decide (v < 0)) := by
  rw [isNegative_eq hne, isNegative_eq hne']
  rcases lt_or_gt_of_ne hne with hsign | hsign <;>
    rcases lt_or_gt_of_ne hne' with hsign' | hsign' <;>
    simp only [hv, hsign, hsign', hsign.not_gt, hsign'.not_gt] <;>
    exact ⟨rfl, rfl⟩

/-- Two mantissas whose product is not tiny have enough bits together. -/
theorem le_mul_mantissa (h : IsNormal (toRat x * toRat y)) :
    2 ^ 52 ≤ (magnitude x).mantissa * (magnitude y).mantissa := by
  have hpos := mantissa_pos (left_ne_zero_of_mul h.ne_zero)
  have hpos' := mantissa_pos (right_ne_zero_of_mul h.ne_zero)
  rcases (isCanonical_magnitude x hx).normal with hnormal | hleast
  · exact le_trans hnormal (Nat.le_mul_of_pos_right _ hpos')
  rcases (isCanonical_magnitude y hy).normal with hnormal | hleast'
  · exact le_trans hnormal (Nat.le_mul_of_pos_left _ hpos)
  by_contra hsmall
  have hcast : ((magnitude x).mantissa : ℚ) * (magnitude y).mantissa < 2 ^ (52 : ℤ) := by
    exact_mod_cast not_le.mp hsmall
  have habs := h.le_abs
  rw [abs_mul, abs_toRat, abs_toRat, Magnitude.value, Magnitude.value, hleast, hleast'] at habs
  have htiny : (2 : ℚ) ^ (52 : ℤ) * (2 ^ (-1074 : ℤ) * 2 ^ (-1074 : ℤ)) ≤ 2 ^ (-1022 : ℤ) := by
    rw [← zpow_add₀ (by norm_num), ← zpow_add₀ (by norm_num)]
    exact two_zpow_le (by norm_num)
  have hless := mul_lt_mul_of_pos_right hcast
    (mul_pos (two_zpow_pos (-1074)) (two_zpow_pos (-1074)))
  rw [mul_mul_mul_comm] at habs
  exact absurd (lt_of_lt_of_le hless htiny) (not_lt.mpr habs)

/-- A product is rounded. -/
theorem rounds_mul (h : IsNormal (toRat x * toRat y)) : Rounds (toRat x * toRat y) (x * y) := by
  have hne : toRat x ≠ 0 := left_ne_zero_of_mul h.ne_zero
  have hne' : toRat y ≠ 0 := right_ne_zero_of_mul h.ne_zero
  have hvalue : |toRat x * toRat y| = (magnitude x).value * (magnitude y).value := by
    rw [abs_mul, abs_toRat, abs_toRat]
  obtain ⟨size, hpos, hsize, hreads⟩ := Magnitude.exists_reads h.le_abs h.abs_lt
  refine ⟨size, hpos, hsize, hreads, ?_⟩
  change Float.ofModel (Float.Model.pack (UnpackedFloat.mul _ _ _)) = _
  rw [unpack_eq_finite x hx (mantissa_pos hne), unpack_eq_finite y hy (mantissa_pos hne'),
    mul_eq hsize hpos hreads _ _ _ _ hvalue (le_mul_mantissa hx hy h),
    (sign_eq hne hne' mul_neg_iff).1]
  rfl

/-- A quotient is rounded. -/
theorem rounds_div (h : IsNormal (toRat x / toRat y)) : Rounds (toRat x / toRat y) (x / y) := by
  have hne : toRat x ≠ 0 := fun hzero => h.ne_zero (by rw [hzero, zero_div])
  have hne' : toRat y ≠ 0 := fun hzero => h.ne_zero (by rw [hzero, div_zero])
  have hvalue : |toRat x / toRat y| = (magnitude x).value / (magnitude y).value := by
    rw [abs_div, abs_toRat, abs_toRat]
  obtain ⟨size, hpos, hsize, hreads⟩ := Magnitude.exists_reads h.le_abs h.abs_lt
  refine ⟨size, hpos, hsize, hreads, ?_⟩
  change Float.ofModel (Float.Model.pack (UnpackedFloat.div _ _ _)) = _
  rw [unpack_eq_finite x hx (mantissa_pos hne), unpack_eq_finite y hy (mantissa_pos hne'),
    div_eq hsize hpos hreads _ _ _ _ hvalue, (sign_eq hne hne' div_neg_iff).2]
  rfl

end Operands

/-! ### Zeros and negation -/

/-- Both zeros are finite and have the value zero. -/
theorem zero_fields (sign : Sign) :
    (Float.ofModel (Float.Model.pack (.zero sign))).isFinite = true ∧
      toRat (Float.ofModel (Float.Model.pack (.zero sign))) = 0 := by
  rw [toRat_eq_zero_iff]
  cases sign <;> decide +kernel

/-- Both zeros unpack to a zero with their sign. -/
theorem unpack_zero (sign : Sign) :
    (Float.ofModel (Float.Model.pack (.zero sign))).toModel.unpack = .zero sign := by
  cases sign <;> rfl

section ZeroResults

variable {x y : Float} (hx : x.isFinite = true) (hy : y.isFinite = true)
include hx hy

/-- A product with a zero is a zero. -/
theorem mul_eq_zero_of (h : toRat x * toRat y = 0) :
    ∃ sign, x * y = .ofModel (Float.Model.pack (.zero sign)) := by
  change ∃ sign, Float.ofModel (Float.Model.pack (UnpackedFloat.mul _ _ _)) = _
  rcases eq_or_ne (toRat x) 0 with hzero | hne
  · rw [unpack_eq_zero x hx (toRat_eq_zero_iff.mp hzero)]
    rcases eq_or_ne (toRat y) 0 with hzero' | hne'
    · rw [unpack_eq_zero y hy (toRat_eq_zero_iff.mp hzero')]
      exact ⟨_, rfl⟩
    · rw [unpack_eq_finite y hy (mantissa_pos hne')]
      exact ⟨_, rfl⟩
  · have hzero' : toRat y = 0 := (mul_eq_zero.mp h).resolve_left hne
    rw [unpack_eq_finite x hx (mantissa_pos hne),
      unpack_eq_zero y hy (toRat_eq_zero_iff.mp hzero')]
    exact ⟨_, rfl⟩

/-- A quotient of a zero by a number that is not zero is a zero. -/
theorem div_eq_zero_of (hzero : toRat x = 0) (hne : toRat y ≠ 0) :
    ∃ sign, x / y = .ofModel (Float.Model.pack (.zero sign)) := by
  change ∃ sign, Float.ofModel (Float.Model.pack (UnpackedFloat.div _ _ _)) = _
  rw [unpack_eq_zero x hx (toRat_eq_zero_iff.mp hzero), unpack_eq_finite y hy (mantissa_pos hne)]
  exact ⟨_, rfl⟩

/-- Numbers that are not zero and cancel have positive zero as their sum. -/
theorem add_eq_zero_of (hne : toRat x ≠ 0) (h : toRat x + toRat y = 0) :
    x + y = .ofModel (Float.Model.pack (.zero .positive)) := by
  have hne' : toRat y ≠ 0 := fun hzero => hne (by rw [hzero, add_zero] at h; exact h)
  obtain ⟨mantissa, exponent, hvalue, hsum⟩ := unpack_add hx hy hne hne'
  rw [h, eq_comm, mul_eq_zero, Int.cast_eq_zero] at hvalue
  rw [hvalue.resolve_right (two_zpow_pos exponent).ne'] at hsum
  change Float.ofModel (Float.Model.pack (UnpackedFloat.add _ _ _)) = _
  rw [hsum]
  rfl

end ZeroResults

section Negation

variable {x : Float} (hx : x.isFinite = true)
include hx

/-- The negation of a number other than zero has its magnitude and the other sign. -/
theorem neg_of_pos (hpos : 0 < (magnitude x).mantissa) :
    -x = ofMagnitude (!isNegative x) (magnitude x) hpos := by
  have hsign : -signOf (isNegative x) = signOf (!isNegative x) := by cases isNegative x <;> rfl
  change Float.ofModel (Float.Model.pack x.toModel.unpack.neg) = _
  rw [unpack_eq_finite x hx hpos, UnpackedFloat.neg, hsign]
  rfl

/-- The negation of a zero is the other zero. -/
theorem neg_of_zero (hzero : (magnitude x).mantissa = 0) :
    -x = .ofModel (Float.Model.pack (.zero (-signOf (isNegative x)))) := by
  change Float.ofModel (Float.Model.pack x.toModel.unpack.neg) = _
  rw [unpack_eq_zero x hx hzero]
  rfl

/-- Negation changes the sign of what a finite number unpacks to. -/
theorem unpack_neg : (-x).toModel.unpack = x.toModel.unpack.neg := by
  rcases Nat.eq_zero_or_pos (magnitude x).mantissa with hzero | hpos
  · rw [neg_of_zero hx hzero, unpack_eq_zero x hx hzero]
    exact unpack_zero _
  · rw [neg_of_pos hx hpos, unpack_ofMagnitude (isCanonical_magnitude x hx),
      unpack_eq_finite x hx hpos, UnpackedFloat.neg]
    cases isNegative x <;> rfl

/-- Negation keeps a number finite and negates its value. -/
theorem neg_fields : (-x).isFinite = true ∧ toRat (-x) = -toRat x := by
  rcases Nat.eq_zero_or_pos (magnitude x).mantissa with hzero | hpos
  · rw [neg_of_zero hx hzero, toRat_eq_zero_iff.mpr hzero, neg_zero]
    exact zero_fields _
  · have hcanonical := isCanonical_magnitude x hx
    obtain ⟨hsign, hmagnitude, hfinite⟩ := fields_ofMagnitude hcanonical hpos (!isNegative x)
    rw [neg_of_pos hx hpos]
    refine ⟨hfinite, ?_⟩
    rw [toRat, toRat, hsign, hmagnitude]
    cases isNegative x <;> simp

end Negation

/-- Unpacked numbers are subtracted by adding the negated one. -/
theorem unpacked_sub_eq (spec : Format) (x y : UnpackedFloat) :
    UnpackedFloat.sub spec x y = UnpackedFloat.add spec x y.neg := by
  cases x <;> cases y <;> try rfl
  case finite.finite sign' _ _ _ =>
    cases sign' with
    | positive => rfl
    | negative =>
      simp only [UnpackedFloat.sub, Sign.apply, sub_neg_eq_add]
      rfl

/-- A difference is the sum with the negated number. -/
theorem sub_eq_add_neg (x : Float) {y : Float} (hy : y.isFinite = true) : x - y = x + -y := by
  change Float.ofModel (Float.Model.pack (UnpackedFloat.sub _ _ y.toModel.unpack)) =
    Float.ofModel (Float.Model.pack (UnpackedFloat.add _ _ (-y).toModel.unpack))
  rw [unpack_neg hy, unpacked_sub_eq]

/-! ### Whole numbers -/

/-- A quotient of positive whole numbers is neither tiny nor enormous. -/
theorem isNormal_div {m n : ℕ} (hm : 0 < m) (hmlt : m < 2 ^ 53) (hn : 0 < n) (hnlt : n < 2 ^ 53) :
    IsNormal ((m : ℚ) / n) := by
  have hone : (1 : ℚ) ≤ m := by exact_mod_cast hm
  have hmost : (m : ℚ) ≤ 2 ^ 53 := by exact_mod_cast hmlt.le
  have hone' : (1 : ℚ) ≤ n := by exact_mod_cast hn
  have hmost' : (n : ℚ) ≤ 2 ^ 53 := by exact_mod_cast hnlt.le
  have hpos : 0 < (n : ℚ) := by linarith
  apply isNormal_of_le <;> rw [abs_of_pos (by positivity)]
  · rw [le_div_iff₀ hpos]
    norm_num
    linarith
  · rw [div_le_iff₀ hpos]
    norm_num
    linarith

/-- The mantissa of a positive whole number is positive. -/
theorem mantissa_wholeMagnitude_pos {n : ℕ} (hpos : 0 < n) : 0 < (wholeMagnitude n).mantissa := by
  rw [wholeMagnitude, Nat.shiftLeft_eq]
  exact Nat.mul_pos hpos (Nat.two_pow_pos _)

/-- A positive whole number is the number with its magnitude. -/
theorem ofNat_eq {n : ℕ} (hpos : 0 < n) (hlt : n < 2 ^ 53) :
    Float.ofNat n =
      ofMagnitude false (wholeMagnitude n) (mantissa_wholeMagnitude_pos hpos) := by
  have hreads : (wholeMagnitude n).Reads (n * 10 ^ (0 : ℤ)) := by
    rw [zpow_zero, mul_one, ← value_wholeMagnitude hpos hlt]
    exact Magnitude.reads_value _
  exact float_ofScientific_eq (isCanonical_wholeMagnitude hpos hlt) _ hpos hreads (by norm_num)
    (by omega)

section Integers

variable {z : ℤ} (hlt : z.natAbs < 2 ^ 53)
include hlt

/-- An integer other than zero is the number with its sign and the magnitude of its size. -/
theorem ofInt_eq (hne : z ≠ 0) :
    Float.ofInt z = ofMagnitude (decide (z < 0)) (wholeMagnitude z.natAbs)
      (mantissa_wholeMagnitude_pos (Int.natAbs_pos.mpr hne)) := by
  cases z with
  | ofNat n => exact ofNat_eq (Nat.pos_of_ne_zero fun hzero => hne (by rw [hzero]; rfl)) hlt
  | negSucc n =>
    have hsize := isCanonical_wholeMagnitude n.succ_pos hlt
    have hwhole := withSign_ofMagnitude hsize (mantissa_wholeMagnitude_pos n.succ_pos) true
    rw [← ofNat_eq n.succ_pos hlt] at hwhole
    rw [decide_eq_true (Int.negSucc_lt_zero n)]
    exact hwhole

/-- An integer is exactly a number. -/
theorem ofInt_fields : (Float.ofInt z).isFinite = true ∧ toRat (Float.ofInt z) = z := by
  rcases eq_or_ne z 0 with rfl | hne
  · rw [Int.cast_zero, toRat_eq_zero_iff]
    decide +kernel
  · have hpos := Int.natAbs_pos.mpr hne
    obtain ⟨hsign, hmagnitude, hfinite⟩ := fields_ofMagnitude (isCanonical_wholeMagnitude hpos hlt)
      (mantissa_wholeMagnitude_pos hpos) (decide (z < 0))
    rw [ofInt_eq hlt hne]
    refine ⟨hfinite, ?_⟩
    rw [toRat, hsign, hmagnitude, value_wholeMagnitude hpos hlt, Nat.cast_natAbs]
    rcases lt_or_ge z 0 with hneg | hnonneg
    · rw [if_pos (decide_eq_true hneg), abs_of_neg hneg]
      push_cast
      ring
    · rw [if_neg (by simpa using hnonneg), abs_of_nonneg hnonneg]

/-- An integer other than zero is neither tiny nor enormous. -/
theorem isNormal_intCast (hne : z ≠ 0) : IsNormal (z : ℚ) := by
  have hcast : |(z : ℚ)| = (z.natAbs : ℚ) := by rw [Nat.cast_natAbs, Int.cast_abs]
  have hone : (1 : ℚ) ≤ z.natAbs := by exact_mod_cast Int.natAbs_pos.mpr hne
  have hmost : (z.natAbs : ℚ) < 2 ^ 53 := by exact_mod_cast hlt
  apply isNormal_of_le <;> rw [hcast]
  · exact le_trans (by norm_num) hone
  · exact le_trans hmost.le (by norm_num)

/-- A number with the value of an integer other than zero is this integer. -/
theorem Rounds.eq_ofInt (hne : z ≠ 0) {x : Float} (h : Rounds z x) : x = Float.ofInt z := by
  obtain ⟨hfinite, hvalue⟩ := ofInt_fields hlt
  refine h.unique ?_
  rw [← hvalue]
  exact .self hfinite (by rw [hvalue]; exact_mod_cast hne)

/-- A finite number with the value of an integer other than zero is this integer. -/
theorem eq_ofInt (hne : z ≠ 0) {x : Float} (hx : x.isFinite = true) (h : toRat x = z) :
    x = Float.ofInt z := by
  apply Rounds.eq_ofInt hlt hne
  rw [← h]
  exact .self hx (by rw [h]; exact_mod_cast hne)

/-- An integer other than zero does not equal zero. -/
theorem ofInt_beq_zero (hne : z ≠ 0) : (Float.ofInt z == 0.0) = false := by
  have hpos := Int.natAbs_pos.mpr hne
  change ((Float.ofInt z).toModel.unpack.compare (.zero .positive) == some .eq) = false
  rw [ofInt_eq hlt hne, unpack_ofMagnitude (isCanonical_wholeMagnitude hpos hlt)]
  cases decide (z < 0) <;> rfl

/-- Negation of an integer other than zero is exact. -/
theorem neg_ofInt (hne : z ≠ 0) : -Float.ofInt z = Float.ofInt (-z) := by
  obtain ⟨hfinite, hvalue⟩ := ofInt_fields hlt
  obtain ⟨hfinite', hvalue'⟩ := neg_fields hfinite
  refine eq_ofInt (by omega) (neg_ne_zero.mpr hne) hfinite' ?_
  rw [hvalue', hvalue]
  push_cast
  rfl

/-- The absolute value of an integer is exact. -/
theorem abs_ofInt : (Float.ofInt z).abs = Float.ofInt |z| := by
  rcases eq_or_ne z 0 with rfl | hne
  · rfl
  · have hpos := Int.natAbs_pos.mpr hne
    rw [Int.abs_eq_natAbs, ofInt_eq hlt hne]
    change Float.ofModel (Float.Model.pack (UnpackedFloat.abs (Float.toModel _).unpack)) =
      Float.ofNat z.natAbs
    rw [unpack_ofMagnitude (isCanonical_wholeMagnitude hpos hlt), ofNat_eq hpos hlt]
    rfl

end Integers

section Sums

variable {a b c : ℤ} (ha : a.natAbs < 2 ^ 53) (hb : b.natAbs < 2 ^ 53) (hc : c.natAbs < 2 ^ 53)
include ha

/-- Integers compare as numbers. -/
theorem ofInt_lt_iff (hb : b.natAbs < 2 ^ 53) : Float.ofInt a < Float.ofInt b ↔ a < b := by
  obtain ⟨hfinite, hvalue⟩ := ofInt_fields ha
  obtain ⟨hfinite', hvalue'⟩ := ofInt_fields hb
  rw [lt_iff_toRat_lt hfinite hfinite', hvalue, hvalue', Int.cast_lt]

/-- Different integers are different numbers. -/
theorem ofInt_inj (hb : b.natAbs < 2 ^ 53) : Float.ofInt a = Float.ofInt b ↔ a = b := by
  refine ⟨fun heq => ?_, fun heq => heq ▸ rfl⟩
  have hvalue := (ofInt_fields ha).2
  rw [heq, (ofInt_fields hb).2] at hvalue
  exact_mod_cast hvalue.symm

/-- The greater of two integers is the greater number. -/
theorem greater_ofInt (hb : b.natAbs < 2 ^ 53) :
    greater (Float.ofInt a) (Float.ofInt b) = Float.ofInt (max a b) := by
  have hnumber := isNaN_eq_false _ (ofInt_fields ha).1
  have hnumber' := isNaN_eq_false _ (ofInt_fields hb).1
  rw [greater, hnumber, hnumber', if_neg Bool.false_ne_true, if_neg Bool.false_ne_true]
  by_cases h : b < a
  · rw [if_pos ((ofInt_lt_iff hb ha).mpr h), max_eq_left h.le]
  · rw [if_neg (mt (ofInt_lt_iff hb ha).mp h), max_eq_right (not_lt.mp h)]

/-- A sum whose exact result is an integer is exact. -/
theorem ofInt_add {y : Float} (hy : y.isFinite = true) (hc : c.natAbs < 2 ^ 53)
    (hsum : a + toRat y = c) : Float.ofInt a + y = Float.ofInt c := by
  obtain ⟨hfinite, hvalue⟩ := ofInt_fields ha
  rcases eq_or_ne c 0 with rfl | hne
  · rw [Int.cast_zero] at hsum
    rcases eq_or_ne a 0 with rfl | hne
    · rw [Int.cast_zero, zero_add] at hsum
      change Float.ofModel (Float.Model.pack (UnpackedFloat.add _ _ y.toModel.unpack)) = _
      rw [unpack_eq_zero y hy (toRat_eq_zero_iff.mp hsum)]
      cases isNegative y <;> rfl
    · apply add_eq_zero_of hfinite hy
      · rw [hvalue]
        exact_mod_cast hne
      · rw [hvalue, hsum]
  · apply Rounds.eq_ofInt hc hne
    rw [← hsum, ← hvalue]
    apply rounds_add hfinite hy
    rw [hvalue, hsum]
    exact isNormal_intCast hc hne

/-- A difference of integers is exact. -/
theorem ofInt_sub (hb : b.natAbs < 2 ^ 53) (hc : (a - b).natAbs < 2 ^ 53) :
    Float.ofInt a - Float.ofInt b = Float.ofInt (a - b) := by
  obtain ⟨hfinite, hvalue⟩ := ofInt_fields hb
  obtain ⟨hfinite', hvalue'⟩ := neg_fields hfinite
  rw [sub_eq_add_neg _ hfinite]
  apply ofInt_add ha hfinite' hc
  rw [hvalue', hvalue]
  push_cast
  ring

/-- A product of integers has their product as its value. -/
theorem ofInt_mul (hb : b.natAbs < 2 ^ 53) (hc : (a * b).natAbs < 2 ^ 53) :
    (Float.ofInt a * Float.ofInt b).isFinite = true ∧
      toRat (Float.ofInt a * Float.ofInt b) = a * b := by
  obtain ⟨hfinite, hvalue⟩ := ofInt_fields ha
  obtain ⟨hfinite', hvalue'⟩ := ofInt_fields hb
  rcases eq_or_ne (a * b) 0 with hzero | hne
  · have hcast : (a : ℚ) * b = 0 := by exact_mod_cast hzero
    obtain ⟨sign, hproduct⟩ := mul_eq_zero_of hfinite hfinite' (by rw [hvalue, hvalue', hcast])
    rw [hproduct, hcast]
    exact zero_fields sign
  · have hproduct : Float.ofInt a * Float.ofInt b = Float.ofInt (a * b) := by
      apply Rounds.eq_ofInt hc hne
      rw [Int.cast_mul, ← hvalue, ← hvalue']
      apply rounds_mul hfinite hfinite'
      rw [hvalue, hvalue', ← Int.cast_mul]
      exact isNormal_intCast hc hne
    rw [hproduct, ← Int.cast_mul]
    exact ofInt_fields hc

end Sums

/-! ### Whole parts -/

namespace Magnitude

variable {size : Magnitude}

/-- The whole number of a magnitude is the greatest one that is not above it. -/
theorem whole_eq {n : ℕ} (hle : n ≤ size.value) (hlt : size.value < n + 1) : size.whole = n := by
  unfold whole
  split
  · next h =>
    rw [value_of_nonneg h] at hle hlt
    have hle' : n ≤ size.mantissa * 2 ^ size.exponent.toNat := by exact_mod_cast hle
    have hlt' : size.mantissa * 2 ^ size.exponent.toNat < n + 1 := by exact_mod_cast hlt
    exact Nat.le_antisymm (Nat.lt_succ_iff.mp hlt') hle'
  · next h =>
    have hvalue := value_of_neg (not_le.mp h)
    have hpos : (0 : ℚ) < (2 ^ (-size.exponent).toNat : ℕ) := by positivity
    apply Nat.div_eq_of_lt_le
    · have hscaled := mul_le_mul_of_nonneg_right hle hpos.le
      rw [hvalue] at hscaled
      exact_mod_cast hscaled
    · have hscaled := mul_lt_mul_of_pos_right hlt hpos
      rw [hvalue] at hscaled
      exact_mod_cast hscaled

end Magnitude

/-- A positive number from a whole number up to the next one has this whole number as its floor. -/
theorem floor_eq {x : Float} {n : ℕ} (hx : x.isFinite = true) (hpos : 0 < toRat x)
    (hle : n ≤ toRat x) (hlt : toRat x < n + 1) (hn : n < 2 ^ 53) : floor x = Float.ofInt n := by
  have hsign : isNegative x = false := by
    rw [isNegative_eq hpos.ne', decide_eq_false hpos.not_gt]
  have hvalue : toRat x = (magnitude x).value := by rw [toRat, hsign, if_neg Bool.false_ne_true]
  have hwhole : (magnitude x).whole = n := Magnitude.whole_eq (hvalue ▸ hle) (hvalue ▸ hlt)
  unfold floor
  rw [hsign, hwhole, hx]
  by_cases hfraction : (magnitude x).isWhole = true
  · rw [if_pos (by rw [hfraction]; rfl)]
    have hexact : toRat x = (n : ℤ) := by
      rw [hvalue, Magnitude.value_eq_whole hfraction, hwhole]
      rfl
    refine eq_ofInt (z := n) hn ?_ hx hexact
    rintro hzero
    rw [hexact, hzero] at hpos
    exact absurd hpos (by norm_num)
  · rw [if_neg (by simpa using hfraction), if_neg Bool.false_ne_true]
    rfl

/-- The integer part of a whole number is itself. -/
theorem integerPart_ofInt {n : ℕ} (hn : n < 2 ^ 53) : integerPart (Float.ofInt n) = n := by
  rcases Nat.eq_zero_or_pos n with rfl | hpos
  · decide +kernel
  · obtain ⟨-, hvalue⟩ := ofInt_fields (z := n) hn
    have hcast : (0 : ℚ) < n := by exact_mod_cast hpos
    have hself : toRat (Float.ofInt n) = n := hvalue
    have hsign : isNegative (Float.ofInt n) = false := by
      rw [isNegative_eq (by rw [hself]; exact hcast.ne'), hself, decide_eq_false hcast.not_gt]
    rw [toRat, hsign, if_neg Bool.false_ne_true] at hself
    rw [integerPart, hsign, if_neg Bool.false_ne_true,
      Magnitude.whole_eq hself.ge (by rw [hself]; exact lt_add_one _)]

end ShapeLisp.Number
