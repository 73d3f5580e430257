import Mathlib
import ShapeLisp.Number.Binary64

/-!
# Bit patterns and unpacked numbers

The operations on floating point numbers are specified on unpacked numbers: a sign, a mantissa and
an exponent. This module relates them to the bit pattern, from which `magnitude` and `isNegative`
are computed. A finite number that is not zero unpacks to its own sign and magnitude, and packing
these gives the number back.
-/

namespace ShapeLisp.Number

open Float.Model Float.Model.UnpackedFloat

/-! ### Fields of a bit pattern -/

/-- The fraction field as a number. -/
theorem toNat_unpackMantissa (bits : BitVec 64) :
    (@unpackMantissa Format.binary64 bits).toNat = bits.toNat % 2 ^ 52 := by
  simp [unpackMantissa]

/-- The exponent field as a number. -/
theorem toNat_unpackExponent (bits : BitVec 64) :
    (@unpackExponent Format.binary64 bits).toNat = bits.toNat / 2 ^ 52 % 2 ^ 11 := by
  simp [unpackExponent, Nat.shiftRight_eq_div_pow]

/-- The sign bit as a number. -/
theorem toNat_unpackSign (bits : BitVec 64) :
    (@unpackSign Format.binary64 bits).toNat = bits.toNat / 2 ^ 63 := by
  have hbits := bits.isLt
  simp only [unpackSign, BitVec.toNat_cast, BitVec.extractLsb_toNat, Nat.shiftRight_eq_div_pow]
  omega

/-- A bit pattern is the sum of its fields, each in its place. -/
theorem toNat_packComponents (sign : Sign) (exponent : BitVec 11) (mantissa : BitVec 52) :
    (packComponents Format.binary64 sign exponent mantissa).toNat =
      sign.toBitVec.toNat * 2 ^ 63 + exponent.toNat * 2 ^ 52 + mantissa.toNat := by
  have hexponent := exponent.isLt
  have hmantissa := mantissa.isLt
  change (sign.toBitVec ++ exponent ++ mantissa).toNat = _
  rw [BitVec.toNat_append, BitVec.toNat_append, ← Nat.shiftLeft_add_eq_or_of_lt hexponent,
    ← Nat.shiftLeft_add_eq_or_of_lt hmantissa, Nat.shiftLeft_eq, Nat.shiftLeft_eq]
  ring

/-- A mantissa with its leading one. -/
theorem toNat_leadingOne (mantissa : BitVec 52) :
    (1#1 ++ mantissa).toNat = 2 ^ 52 + mantissa.toNat := by
  have hmantissa := mantissa.isLt
  rw [BitVec.toNat_append, ← Nat.shiftLeft_add_eq_or_of_lt hmantissa, Nat.shiftLeft_eq]
  rfl

/-- Numbers with the same bit pattern are the same. -/
theorem eq_of_toBits_eq {x y : Float} (h : x.toBits.toNat = y.toBits.toNat) : x = y := by
  obtain ⟨⟨first, _⟩⟩ := x
  obtain ⟨⟨second, _⟩⟩ := y
  have hbits : first = second := UInt64.toNat_inj.mp h
  subst hbits
  rfl

/-! ### Canonical magnitudes -/

/-- A magnitude that a finite number can have. -/
structure Magnitude.IsCanonical (size : Magnitude) : Prop where
  /-- The mantissa has at most 53 bits. -/
  mantissa_lt : size.mantissa < 2 ^ 53
  /-- The exponent is not below that of the least number. -/
  le_exponent : -1074 ≤ size.exponent
  /-- The exponent is not above that of the greatest number. -/
  exponent_le : size.exponent ≤ 971
  /-- The mantissa has all 53 bits unless the exponent is the least. -/
  normal : 2 ^ 52 ≤ size.mantissa ∨ size.exponent = -1074

/-- The sign of the sign bit. -/
def signOf (negative : Bool) : Sign :=
  if negative then .negative else .positive

/-- The bit of a sign. -/
theorem toNat_signOf (negative : Bool) :
    (signOf negative).toBitVec.toNat = negative.toNat := by
  cases negative <;> rfl

/-- The bit pattern of a number is below two to the sixty-fourth. -/
theorem toBits_lt (x : Float) : x.toBits.toNat < 2 ^ 64 := x.toBits.toNat_lt

/-- A bit pattern is the sum of its fields. -/
theorem toBits_eq (x : Float) :
    x.toBits.toNat =
      (isNegative x).toNat * 2 ^ 63 + exponentField x * 2 ^ 52 + fractionField x := by
  have hlt := toBits_lt x
  have hpow : Nat.pow 2 63 = 2 ^ 63 ∧ Nat.pow 2 52 = 2 ^ 52 ∧ Nat.pow 2 11 = 2 ^ 11 :=
    ⟨rfl, rfl, rfl⟩
  unfold isNegative exponentField fractionField
  rw [hpow.1, hpow.2.1, hpow.2.2]
  by_cases hsign : 2 ^ 63 ≤ x.toBits.toNat
  · simp only [hsign, decide_true, Bool.toNat_true]
    omega
  · simp only [hsign, decide_false, Bool.toNat_false]
    omega

/-! ### Unpacking -/

section Unpacking

variable (x : Float)

/-- The exponent field is read off the bit pattern. -/
theorem toNat_exponent : (@unpackExponent Format.binary64 x.toBits.toBitVec).toNat =
    exponentField x := toNat_unpackExponent _

/-- The fraction field is read off the bit pattern. -/
theorem toNat_fraction : (@unpackMantissa Format.binary64 x.toBits.toBitVec).toNat =
    fractionField x := toNat_unpackMantissa _

/-- The sign is read off the bit pattern. -/
theorem ofBitVec_sign : Sign.ofBitVec (@unpackSign Format.binary64 x.toBits.toBitVec) =
    signOf (isNegative x) := by
  have hlt := toBits_lt x
  have hsign := toNat_unpackSign x.toBits.toBitVec
  have hpow : Nat.pow 2 63 = 2 ^ 63 := rfl
  have hbits : x.toBits.toBitVec.toNat = x.toBits.toNat := rfl
  rw [hbits] at hsign
  unfold Sign.ofBitVec signOf isNegative
  rw [hpow]
  by_cases h : 2 ^ 63 ≤ x.toBits.toNat
  · have hone : (@unpackSign Format.binary64 x.toBits.toBitVec).toNat = 1 := by omega
    have hne : @unpackSign Format.binary64 x.toBits.toBitVec ≠ 0#1 := by
      intro hzero
      rw [hzero] at hone
      cases hone
    simp only [h, hne, decide_true, if_true, if_false]
  · have hzero : @unpackSign Format.binary64 x.toBits.toBitVec = 0#1 := by
      apply BitVec.eq_of_toNat_eq
      change _ = 0
      omega
    simp only [h, hzero, decide_false, if_true, Bool.false_eq_true, if_false]

/-- The fields are in their ranges. -/
theorem field_bounds : fractionField x < 2 ^ 52 ∧ exponentField x < 2 ^ 11 :=
  ⟨Nat.mod_lt _ (by decide), Nat.mod_lt _ (by decide)⟩

/-- The exponent field is full when all its bits are set. -/
theorem exponent_eq_neg_one_iff :
    @unpackExponent Format.binary64 x.toBits.toBitVec = -1#11 ↔ exponentField x = 2047 := by
  rw [← toNat_exponent, ← BitVec.toNat_inj]
  rfl

/-- The exponent field is empty when no bit is set. -/
theorem exponent_eq_zero_iff :
    @unpackExponent Format.binary64 x.toBits.toBitVec = 0#11 ↔ exponentField x = 0 := by
  rw [← toNat_exponent, ← BitVec.toNat_inj]
  rfl

/-- The fraction field is empty when no bit is set. -/
theorem fraction_eq_zero_iff :
    @unpackMantissa Format.binary64 x.toBits.toBitVec = 0#52 ↔ fractionField x = 0 := by
  rw [← toNat_fraction, ← BitVec.toNat_inj]
  rfl

/-- Finite numbers are those whose exponent field is not full. -/
theorem isFinite_iff : x.isFinite = true ↔ exponentField x ≠ 2047 := by
  have hfull := exponent_eq_neg_one_iff x
  change (UnpackedFloat.unpack Format.binary64 x.toBits.toBitVec).isFinite = true ↔ _
  unfold UnpackedFloat.unpack
  dsimp only
  split
  · next h =>
    have hexponent := hfull.mp h
    split <;> simp [UnpackedFloat.isFinite, hexponent]
  · next h =>
    have hexponent : exponentField x ≠ 2047 := fun heq => h (hfull.mpr heq)
    split
    · split <;> simp [UnpackedFloat.isFinite, hexponent]
    · simp [UnpackedFloat.isFinite, hexponent]

/-- A finite number is a number. -/
theorem isNaN_eq_false (hx : x.isFinite = true) : x.isNaN = false := by
  change x.toModel.unpack.isNaN = false
  change x.toModel.unpack.isFinite = true at hx
  cases h : x.toModel.unpack with
  | notANumber =>
    rw [h] at hx
    cases hx
  | _ => rfl

/-- The magnitude of a finite number is canonical. -/
theorem isCanonical_magnitude (hx : x.isFinite = true) : (magnitude x).IsCanonical := by
  have hfinite := (isFinite_iff x).mp hx
  obtain ⟨hfraction, hexponent⟩ := field_bounds x
  have hpow : Nat.pow 2 52 = 2 ^ 52 := rfl
  unfold magnitude
  rw [hpow]
  split
  · next hzero =>
    constructor
    · dsimp only
      omega
    · dsimp only
      omega
    · dsimp only
      omega
    · exact .inr rfl
  · next hzero =>
    constructor
    · dsimp only
      omega
    · dsimp only
      omega
    · dsimp only
      omega
    · dsimp only
      omega

/-- A finite number with a positive mantissa unpacks to its sign and its magnitude. -/
theorem unpack_eq_finite (hx : x.isFinite = true) (hpos : 0 < (magnitude x).mantissa) :
    x.toModel.unpack =
      .finite (signOf (isNegative x)) (magnitude x).mantissa (magnitude x).exponent hpos := by
  have hfinite := (isFinite_iff x).mp hx
  have hpow : Nat.pow 2 52 = 2 ^ 52 := rfl
  change UnpackedFloat.unpack Format.binary64 x.toBits.toBitVec = _
  unfold UnpackedFloat.unpack
  dsimp only
  rw [if_neg (mt (exponent_eq_neg_one_iff x).mp hfinite)]
  by_cases hzero : exponentField x = 0
  · have hsize : magnitude x = ⟨fractionField x, -1074⟩ := by rw [magnitude, if_pos hzero]
    have hfraction : fractionField x ≠ 0 := by
      intro hnone
      rw [hsize, hnone] at hpos
      exact Nat.lt_irrefl 0 hpos
    rw [if_pos ((exponent_eq_zero_iff x).mpr hzero),
      dif_neg (mt (fraction_eq_zero_iff x).mp hfraction)]
    simp only [hsize, ofBitVec_sign, toNat_fraction, toNat_exponent, hzero]
    rfl
  · have hsize : magnitude x = ⟨2 ^ 52 + fractionField x, (exponentField x : Int) - 1075⟩ := by
      rw [magnitude, if_neg hzero, hpow]
    rw [if_neg (mt (exponent_eq_zero_iff x).mp hzero)]
    simp only [hsize, ofBitVec_sign, toNat_leadingOne, toNat_fraction, toNat_exponent]
    rfl

/-- A finite number with mantissa zero is a zero with its sign. -/
theorem unpack_eq_zero (hx : x.isFinite = true) (hzero : (magnitude x).mantissa = 0) :
    x.toModel.unpack = .zero (signOf (isNegative x)) := by
  have hfinite := (isFinite_iff x).mp hx
  have hpow : Nat.pow 2 52 = 2 ^ 52 := rfl
  unfold magnitude at hzero
  rw [hpow] at hzero
  change UnpackedFloat.unpack Format.binary64 x.toBits.toBitVec = _
  unfold UnpackedFloat.unpack
  dsimp only
  split at hzero
  · next hexponent =>
    rw [if_neg (mt (exponent_eq_neg_one_iff x).mp hfinite),
      if_pos ((exponent_eq_zero_iff x).mpr hexponent),
      dif_pos ((fraction_eq_zero_iff x).mpr hzero), ofBitVec_sign]
  · dsimp only at hzero
    omega

end Unpacking

/-! ### Packing -/

/-- Truth values with the same number are the same. -/
theorem eq_of_toNat_eq {a b : Bool} (h : a.toNat = b.toNat) : a = b := by
  cases a <;> cases b <;> first | rfl | cases h

/-- The number with a sign and a positive magnitude. -/
def ofMagnitude (negative : Bool) (size : Magnitude) (hpos : 0 < size.mantissa) : Float :=
  .ofModel (Float.Model.pack (.finite (signOf negative) size.mantissa size.exponent hpos))

section Packing

variable {size : Magnitude} (hsize : size.IsCanonical) (hpos : 0 < size.mantissa)
include hsize

/-- The bit pattern of a number without a leading one. -/
theorem toBits_ofMagnitude_of_lt (negative : Bool) (hlt : size.mantissa < 2 ^ 52) :
    (ofMagnitude negative size hpos).toBits.toNat =
      negative.toNat * 2 ^ 63 + size.mantissa := by
  have hexponent : size.exponent = -1074 := hsize.normal.resolve_left (Nat.not_le.mpr hlt)
  have hlog : size.mantissa.log2 < 52 := (Nat.log2_lt (Nat.ne_of_gt hpos)).mpr hlt
  change (UnpackedFloat.pack Format.binary64 (.finite _ size.mantissa size.exponent hpos)).toNat = _
  have hbiased : (size.exponent + (Format.binary64.exponentBias : Int) +
      (Format.binary64.mantissaBitsWithoutImplicit : Int)).toNat = 1 := by
    rw [hexponent]
    rfl
  have hbits : Format.binary64.mantissaBits = 53 := rfl
  simp only [UnpackedFloat.pack, hbiased, hbits]
  rw [if_neg (by decide), if_neg (by omega), toNat_packComponents, toNat_signOf,
    BitVec.toNat_ofNat, BitVec.toNat_ofNat, Nat.mod_eq_of_lt hlt]
  omega

/-- The bit pattern of a number with a leading one. -/
theorem toBits_ofMagnitude_of_le (negative : Bool) (hle : 2 ^ 52 ≤ size.mantissa) :
    (ofMagnitude negative size hpos).toBits.toNat =
      negative.toNat * 2 ^ 63 + (size.exponent + 1075).toNat * 2 ^ 52 +
        (size.mantissa - 2 ^ 52) := by
  have hlt := hsize.mantissa_lt
  have hlow := hsize.le_exponent
  have hhigh := hsize.exponent_le
  have hlog : size.mantissa.log2 = 52 := (Nat.log2_eq_iff (Nat.ne_of_gt hpos)).mpr ⟨hle, hlt⟩
  change (UnpackedFloat.pack Format.binary64 (.finite _ size.mantissa size.exponent hpos)).toNat = _
  have hbiased : (size.exponent + (Format.binary64.exponentBias : Int) +
      (Format.binary64.mantissaBitsWithoutImplicit : Int)).toNat =
        (size.exponent + 1075).toNat := by
    have hbias : (Format.binary64.exponentBias : Int) = 1023 := rfl
    have hwidth : (Format.binary64.mantissaBitsWithoutImplicit : Int) = 52 := rfl
    omega
  have hbits : Format.binary64.mantissaBits = 53 := rfl
  have hfield : Format.binary64.exponentBits = 11 := rfl
  simp only [UnpackedFloat.pack, hbiased, hbits, hlog]
  rw [if_neg (by omega), if_pos trivial, toNat_packComponents, toNat_signOf, BitVec.toNat_ofNat,
    BitVec.toNat_ofNat]
  omega

/-- A number with a sign and a magnitude has this sign and this magnitude. -/
theorem fields_ofMagnitude (negative : Bool) :
    isNegative (ofMagnitude negative size hpos) = negative ∧
      magnitude (ofMagnitude negative size hpos) = size ∧
      (ofMagnitude negative size hpos).isFinite = true := by
  have hlt := hsize.mantissa_lt
  have hlow := hsize.le_exponent
  have hhigh := hsize.exponent_le
  have hsum := toBits_eq (ofMagnitude negative size hpos)
  obtain ⟨hfraction, hexponent⟩ := field_bounds (ofMagnitude negative size hpos)
  have hbit := Bool.toNat_lt negative
  have hbit' := Bool.toNat_lt (isNegative (ofMagnitude negative size hpos))
  have hpow : Nat.pow 2 52 = 2 ^ 52 := rfl
  rw [isFinite_iff, magnitude, hpow]
  rcases Nat.lt_or_ge size.mantissa (2 ^ 52) with hsmall | hlarge
  · rw [toBits_ofMagnitude_of_lt hsize hpos negative hsmall] at hsum
    have hsign : (isNegative (ofMagnitude negative size hpos)).toNat = negative.toNat := by omega
    have hfield : exponentField (ofMagnitude negative size hpos) = 0 := by omega
    have hrest : fractionField (ofMagnitude negative size hpos) = size.mantissa := by omega
    rw [if_pos hfield, hfield, hrest, ← hsize.normal.resolve_left (Nat.not_le.mpr hsmall)]
    exact ⟨eq_of_toNat_eq hsign, rfl, by decide⟩
  · rw [toBits_ofMagnitude_of_le hsize hpos negative hlarge] at hsum
    have hsign : (isNegative (ofMagnitude negative size hpos)).toNat = negative.toNat := by omega
    have hfield : exponentField (ofMagnitude negative size hpos) =
        (size.exponent + 1075).toNat := by omega
    have hrest : fractionField (ofMagnitude negative size hpos) = size.mantissa - 2 ^ 52 := by
      omega
    rw [if_neg (by omega), hfield, hrest]
    refine ⟨eq_of_toNat_eq hsign, ?_, by omega⟩
    obtain ⟨mantissa, exponent⟩ := size
    simp only [Magnitude.mk.injEq] at *
    omega

/-- A number with a sign and a magnitude unpacks to them. -/
theorem unpack_ofMagnitude (negative : Bool) :
    (ofMagnitude negative size hpos).toModel.unpack =
      .finite (signOf negative) size.mantissa size.exponent hpos := by
  obtain ⟨hsign, hmagnitude, hfinite⟩ := fields_ofMagnitude hsize hpos negative
  have hunpacked := unpack_eq_finite (ofMagnitude negative size hpos) hfinite
    (by rw [hmagnitude]; exact hpos)
  simp only [hsign, hmagnitude] at hunpacked
  exact hunpacked

end Packing

/-- A finite number with a positive magnitude is the number with its sign and this magnitude. -/
theorem ofMagnitude_eq {x : Float} {size : Magnitude} (hx : x.isFinite = true)
    (hsize : magnitude x = size) (hpos : 0 < size.mantissa) :
    ofMagnitude (isNegative x) size hpos = x := by
  have hcanonical := isCanonical_magnitude x hx
  obtain ⟨hfraction, hexponent⟩ := field_bounds x
  have hpow : Nat.pow 2 52 = 2 ^ 52 := rfl
  rw [hsize] at hcanonical
  rw [magnitude, hpow] at hsize
  apply eq_of_toBits_eq
  rw [toBits_eq x]
  split at hsize
  · next hfield =>
    subst hsize
    rw [toBits_ofMagnitude_of_lt hcanonical hpos _ hfraction, hfield]
    dsimp only
    omega
  · next hfield =>
    subst hsize
    rw [toBits_ofMagnitude_of_le hcanonical hpos _ (Nat.le_add_right ..)]
    dsimp only
    omega

/-- A sign is put back on a positive number. -/
theorem withSign_ofMagnitude {size : Magnitude} (hsize : size.IsCanonical)
    (hpos : 0 < size.mantissa) (negative : Bool) :
    withSign negative (ofMagnitude false size hpos) = ofMagnitude negative size hpos := by
  cases negative with
  | false => rfl
  | true =>
    change Float.ofModel (Float.Model.pack (ofMagnitude false size hpos).toModel.unpack.neg) = _
    rw [unpack_ofMagnitude hsize hpos]
    rfl

/-! ### Comparison -/

/-- Numbers that cannot be told apart by comparison: a number and itself, and the two zeros. -/
def Same (x y : Float) : Prop :=
  x = y ∨ ∃ first second, x.toModel.unpack = .zero first ∧ y.toModel.unpack = .zero second

namespace Same

/-- A number is the same as itself. -/
theorem refl (x : Float) : Same x x := .inl rfl

/-- Two zeros are the same. -/
theorem of_zero {x y : Float} (hx : x.isFinite = true) (hy : y.isFinite = true)
    (hzero : (magnitude x).mantissa = 0) (hzero' : (magnitude y).mantissa = 0) : Same x y :=
  .inr ⟨_, _, unpack_eq_zero x hx hzero, unpack_eq_zero y hy hzero'⟩

variable {x x' y y' : Float}

/-- Comparisons do not tell them apart. -/
theorem compare_eq (hx : Same x x') (hy : Same y y') :
    x.toModel.unpack.compare y.toModel.unpack = x'.toModel.unpack.compare y'.toModel.unpack := by
  have hleft : ∀ z : UnpackedFloat, x.toModel.unpack.compare z = x'.toModel.unpack.compare z := by
    intro z
    rcases hx with rfl | ⟨first, second, hfirst, hsecond⟩
    · rfl
    · rw [hfirst, hsecond]
      rcases z with ⟨_ | _⟩ | _ | _ | ⟨_ | _, _, _, _⟩ <;> rfl
  have hright : ∀ z : UnpackedFloat, z.compare y.toModel.unpack = z.compare y'.toModel.unpack := by
    intro z
    rcases hy with rfl | ⟨first, second, hfirst, hsecond⟩
    · rfl
    · rw [hfirst, hsecond]
      rcases z with ⟨_ | _⟩ | _ | _ | ⟨_ | _, _, _, _⟩ <;> rfl
  rw [hleft, hright]

/-- The order does not tell them apart. -/
theorem lt_iff (hx : Same x x') (hy : Same y y') : x < y ↔ x' < y' := by
  change decide ((x.toModel.unpack.compare y.toModel.unpack == some .lt) = true) = true ↔
    decide ((x'.toModel.unpack.compare y'.toModel.unpack == some .lt) = true) = true
  rw [compare_eq hx hy]

/-- Neither or both are not a number. -/
theorem isNaN_eq (h : Same x y) : x.isNaN = y.isNaN := by
  rcases h with rfl | ⟨first, second, hfirst, hsecond⟩
  · rfl
  · change x.toModel.unpack.isNaN = y.toModel.unpack.isNaN
    rw [hfirst, hsecond]
    rfl

/-- The lesser of numbers that are the same are the same. -/
theorem lesser (hx : Same x x') (hy : Same y y') :
    Same (Number.lesser x y) (Number.lesser x' y') := by
  unfold Number.lesser
  simp only [hx.isNaN_eq, hy.isNaN_eq, lt_iff hx hy]
  split
  · exact hy
  · split
    · exact hx
    · split
      · exact hx
      · exact hy

/-- The greater of numbers that are the same are the same. -/
theorem greater (hx : Same x x') (hy : Same y y') :
    Same (Number.greater x y) (Number.greater x' y') := by
  unfold Number.greater
  simp only [hx.isNaN_eq, hy.isNaN_eq, lt_iff hy hx]
  split
  · exact hy
  · split
    · exact hx
    · split
      · exact hx
      · exact hy

/-- A finite number equals every number that is the same. -/
theorem beq (h : Same x y) (hy : y.isFinite = true) : (x == y) = true := by
  change (x.toModel.unpack.compare y.toModel.unpack == some .eq) = true
  rw [compare_eq h (.refl y)]
  change y.toModel.unpack.isFinite = true at hy
  generalize y.toModel.unpack = z at hy
  rcases z with _ | _ | _ | ⟨_ | _, mantissa, exponent, _⟩
  · cases hy
  · cases hy
  · rfl
  · simp [UnpackedFloat.compare, Ordering.then]
  · simp [UnpackedFloat.compare, Ordering.then]

end Same

end ShapeLisp.Number
