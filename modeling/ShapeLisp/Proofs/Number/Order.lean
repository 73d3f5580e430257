import Mathlib
import ShapeLisp.Proofs.Number.Decimal

/-!
# The order of numbers

A finite number has a rational value, and numbers compare as their values do. Rounding keeps this
order: a value between two magnitudes is rounded to one between them. Every value that is neither
tiny nor enormous reads as one magnitude.
-/

namespace ShapeLisp.Number

open Float.Model Float.Model.UnpackedFloat

namespace Magnitude

/-! ### Neighbours -/

section Neighbours

variable {s t : Magnitude} (hs : s.IsCanonical)
variable (ht : t.mantissa < 2 ^ 53) (hleast : -1074 ≤ t.exponent)

/-- Above the least exponent the mantissa has all its bits. -/
theorem IsCanonical.le_mantissa (hs : s.IsCanonical) (h : -1074 < s.exponent) :
    2 ^ 52 ≤ s.mantissa := by
  rcases hs.normal with hnormal | hexponent
  · exact hnormal
  · omega

/-- Above the least exponent the magnitude is at least the first mantissa with all bits. -/
theorem IsCanonical.le_value (hs : s.IsCanonical) (h : -1074 < s.exponent) :
    2 ^ 52 * 2 ^ s.exponent ≤ s.value := by
  have hpos := two_zpow_pos s.exponent
  have hmantissa : (2 : ℚ) ^ 52 ≤ s.mantissa := by exact_mod_cast hs.le_mantissa h
  unfold value
  gcongr

/-- The magnitudes with a lower exponent end half a unit below the first mantissa with all bits. -/
theorem value_add_half_le (ht : t.mantissa < 2 ^ 53) (hlt : t.exponent < s.exponent) :
    t.value + 2 ^ (s.exponent - 1) ≤ 2 ^ 52 * 2 ^ s.exponent := by
  have hmantissa : (t.mantissa : ℚ) ≤ 2 ^ 53 - 1 := by
    have : (t.mantissa : ℚ) + 1 ≤ 2 ^ 53 := by exact_mod_cast ht
    linarith
  have hdouble : (2 : ℚ) ^ s.exponent = 2 * 2 ^ (s.exponent - 1) := by
    rw [← zpow_one_add₀ (by norm_num)]
    congr 1
    ring
  have hpos := two_zpow_pos t.exponent
  calc t.value + 2 ^ (s.exponent - 1)
      ≤ (2 ^ 53 - 1) * 2 ^ t.exponent + 2 ^ (s.exponent - 1) := by
        unfold value
        gcongr
    _ ≤ (2 ^ 53 - 1) * 2 ^ (s.exponent - 1) + 2 ^ (s.exponent - 1) := by
        have hpower : (2 : ℚ) ^ t.exponent ≤ 2 ^ (s.exponent - 1) := two_zpow_le (by omega)
        have hfactor : (0 : ℚ) ≤ 2 ^ 53 - 1 := by norm_num
        gcongr
    _ = 2 ^ 52 * 2 ^ s.exponent := by
        rw [hdouble]
        ring

/-- At the same or a higher exponent a magnitude is a whole number of units. -/
theorem exists_units (hle : s.exponent ≤ t.exponent) :
    ∃ units : ℕ, t.value = units * 2 ^ s.exponent := by
  obtain ⟨shift, hshift⟩ := Int.le.dest hle
  refine ⟨t.mantissa * 2 ^ shift, ?_⟩
  rw [value, ← hshift, zpow_add₀ (by norm_num : (2 : ℚ) ≠ 0), zpow_natCast]
  push_cast
  ring

include hs ht hleast

/-- The next greater magnitude is at least a unit of the last place away. -/
theorem add_unit_le (hlt : s.value < t.value) : s.value + 2 ^ s.exponent ≤ t.value := by
  have hpos := two_zpow_pos s.exponent
  rcases lt_or_ge t.exponent s.exponent with hexponent | hexponent
  · -- the mantissa of the lesser one has all bits, so nothing with a lower exponent is above it
    have hvalue := hs.le_value (lt_of_le_of_lt hleast hexponent)
    have hhalf := value_add_half_le ht hexponent
    have hpos' := two_zpow_pos (s.exponent - 1)
    linarith
  · obtain ⟨units, hunits⟩ := exists_units hexponent
    rw [hunits, value] at hlt
    have hnat : s.mantissa < units := by exact_mod_cast lt_of_mul_lt_mul_right hlt hpos.le
    have hcast : (s.mantissa : ℚ) + 1 ≤ units := by exact_mod_cast hnat
    rw [hunits, value]
    nlinarith

/-- The next lesser magnitude is at least twice as far away as the values reach that read as the
greater one. -/
theorem add_below_le (hlt : t.value < s.value) :
    t.value + 2 * s.below * 2 ^ s.exponent ≤ s.value := by
  have hpos := two_zpow_pos s.exponent
  have hbelow := (below_bounds s).2
  rcases lt_or_ge t.exponent s.exponent with hexponent | hexponent
  · have hleast' : -1074 < s.exponent := lt_of_le_of_lt hleast hexponent
    have hhalf := value_add_half_le ht hexponent
    have hdouble : (2 : ℚ) ^ (s.exponent - 1) = 2 ^ s.exponent / 2 := by
      rw [zpow_sub_one₀ (by norm_num), div_eq_mul_inv]
    rcases Nat.eq_or_lt_of_le (hs.le_mantissa hleast') with heq | hmore
    · have hquarter : s.below = 1 / 4 := by rw [below, if_pos ⟨heq.symm, hleast'⟩]
      have hcast : (s.mantissa : ℚ) = 2 ^ 52 := by exact_mod_cast heq.symm
      have hvalue : s.value = 2 ^ 52 * 2 ^ s.exponent := by rw [value, hcast]
      rw [hquarter, hvalue]
      linarith
    · have hcast : (2 : ℚ) ^ 52 + 1 ≤ s.mantissa := by exact_mod_cast hmore
      have hvalue : (2 ^ 52 + 1) * 2 ^ s.exponent ≤ s.value := by
        unfold value
        gcongr
      nlinarith
  · obtain ⟨units, hunits⟩ := exists_units hexponent
    rw [hunits, value] at hlt
    have hnat : units < s.mantissa := by exact_mod_cast lt_of_mul_lt_mul_right hlt hpos.le
    have hcast : (units : ℚ) + 1 ≤ s.mantissa := by exact_mod_cast hnat
    rw [hunits, value]
    nlinarith

/-- A magnitude at or below a value is at or below what the value reads as. -/
theorem Reads.le_value {v : ℚ} (h : s.Reads v) (hle : t.value ≤ v) : t.value ≤ s.value := by
  have hpos := two_zpow_pos s.exponent
  by_contra hlt
  have hnext := add_unit_le hs ht hleast (not_le.mp hlt)
  have hupper := h.upper
  rw [div_le_iff₀ hpos] at hupper
  rw [value] at hnext
  linarith

/-- A magnitude at or above a value is at or above what the value reads as. -/
theorem Reads.value_le {v : ℚ} (h : s.Reads v) (hle : v ≤ t.value) : s.value ≤ t.value := by
  have hpos := two_zpow_pos s.exponent
  by_contra hlt
  have hnext := add_below_le hs ht hleast (not_le.mp hlt)
  have hlower := h.lower
  have hbelow : 0 < s.below * 2 ^ s.exponent :=
    mul_pos (lt_of_lt_of_le (by norm_num) (below_bounds s).1) hpos
  have hvalue : s.value = s.mantissa * 2 ^ s.exponent := rfl
  rw [le_div_iff₀ hpos, sub_mul] at hlower
  linarith

end Neighbours

/-! ### One magnitude for every value -/

variable {s t : Magnitude} {v : ℚ}

/-- A value reads as one magnitude only. -/
theorem Reads.unique (hs : s.IsCanonical) (ht : t.IsCanonical) (h : s.Reads v) (h' : t.Reads v) :
    s = t := by
  have hsize : ∀ {s t : Magnitude}, s.exponent = t.exponent → s.mantissa = t.mantissa → s = t := by
    rintro ⟨_, _⟩ ⟨_, _⟩ rfl rfl
    rfl
  have hbound := hs.mantissa_lt
  have hbound' := ht.mantissa_lt
  rcases h.scale hs with hscale | ⟨hpower, hscale, hrounds⟩ <;>
    rcases h'.scale ht with hscale' | ⟨hpower', hscale', hrounds'⟩ <;>
    have hexponent := hscale.unique hscale'
  · refine hsize hexponent (h.roundsTo.unique ?_)
    rw [hexponent]
    exact h'.roundsTo
  · rw [← hexponent] at hrounds'
    have hmantissa := h.roundsTo.unique hrounds'
    omega
  · rw [hexponent] at hrounds
    have hmantissa := h'.roundsTo.unique hrounds
    omega
  · exact hsize (by omega) (by omega)

/-- A value that is not negative is rounded to a whole number next to it. -/
theorem exists_roundsTo {x : ℚ} (hx : 0 ≤ x) : ∃ rounded : ℕ, RoundsTo x rounded := by
  have hlow := Nat.floor_le hx
  have hhigh := Nat.lt_floor_add_one x
  rcases lt_trichotomy x (⌊x⌋₊ + 1 / 2) with hlt | heq | hgt
  · exact ⟨⌊x⌋₊, .inl ⟨by linarith, hlt⟩⟩
  · rcases Nat.mod_two_eq_zero_or_one ⌊x⌋₊ with heven | hodd
    · exact ⟨⌊x⌋₊, .inr ⟨.inr heq, heven⟩⟩
    · refine ⟨⌊x⌋₊ + 1, .inr ⟨.inl ?_, by omega⟩⟩
      push_cast
      linarith
  · refine ⟨⌊x⌋₊ + 1, .inl ?_⟩
    push_cast
    constructor <;> linarith

/-- A value with all its bits before the last place reads as the whole number of units to which it
is rounded. -/
theorem reads_of_roundsTo {scale : ℤ} {rounded : ℕ} (hmin : (2 : ℚ) ^ 52 ≤ v / 2 ^ scale)
    (h : RoundsTo (v / 2 ^ scale) rounded) : (⟨rounded, scale⟩ : Magnitude).Reads v := by
  obtain ⟨hlower, hupper⟩ := h.bounds
  refine ⟨?_, hupper, ?_⟩
  · unfold below
    split
    · next hpower =>
      have hcast : (rounded : ℚ) = 2 ^ 52 := by exact_mod_cast hpower.1
      dsimp only
      linarith
    · exact hlower
  · intro hodd
    have hbelow : (⟨rounded, scale⟩ : Magnitude).below = 1 / 2 := by
      rw [below, if_neg]
      rintro ⟨hpower, _⟩
      dsimp only at hpower hodd
      omega
    rw [hbelow]
    rcases h with hinside | ⟨_, heven⟩
    · exact hinside
    · exact absurd heven (by dsimp only at hodd; omega)

/-- A value that is rounded up to one bit more reads as the first mantissa at the exponent above. -/
theorem reads_of_carry {scale : ℤ} (hleast : -1074 ≤ scale) (hmax : v / 2 ^ scale < 2 ^ 53)
    (h : RoundsTo (v / 2 ^ scale) (2 ^ 53)) : (⟨2 ^ 52, scale + 1⟩ : Magnitude).Reads v := by
  have hlower := h.bounds.1
  have hhalf : v / 2 ^ (scale + 1) = v / 2 ^ scale / 2 := by
    rw [zpow_add_one₀ (by norm_num), div_div]
  push_cast at hlower
  refine ⟨?_, ?_, fun hodd => ?_⟩
  · rw [below, if_pos ⟨rfl, by dsimp only; omega⟩]
    dsimp only
    rw [hhalf]
    push_cast
    linarith
  · dsimp only
    rw [hhalf]
    push_cast
    linarith
  · norm_num at hodd

/-- A value that is neither tiny nor enormous has all its bits before the last place of a scale. -/
theorem exists_scale (hlow : (2 : ℚ) ^ (-1022 : ℤ) ≤ v) (hhigh : v < 2 ^ (1023 : ℤ)) :
    ∃ scale : ℤ, (-1074 ≤ scale ∧ scale ≤ 970) ∧
      (2 : ℚ) ^ 52 ≤ v / 2 ^ scale ∧ v / 2 ^ scale < 2 ^ 53 := by
  have hv : 0 < v := lt_of_lt_of_le (two_zpow_pos _) hlow
  have hleast := (Int.zpow_le_iff_le_log (by norm_num : 1 < 2) hv).mp hlow
  have hmost := (Int.lt_zpow_iff_log_lt (by norm_num : 1 < 2) hv).mp hhigh
  have hself := Int.zpow_log_le_self (by norm_num : 1 < 2) hv
  have hnext := Int.lt_zpow_succ_log_self (by norm_num : 1 < 2) v
  have hpos := two_zpow_pos (Int.log 2 v - 52)
  refine ⟨Int.log 2 v - 52, ⟨by omega, by omega⟩, ?_, ?_⟩
  · rw [le_div_iff₀ hpos, ← zpow_natCast, ← zpow_add₀ (by norm_num)]
    rw [show Int.log 2 v = ((52 : ℕ) : ℤ) + (Int.log 2 v - 52) by omega] at hself
    exact_mod_cast hself
  · rw [div_lt_iff₀ hpos, ← zpow_natCast, ← zpow_add₀ (by norm_num)]
    rw [show Int.log 2 v + 1 = ((53 : ℕ) : ℤ) + (Int.log 2 v - 52) by omega] at hnext
    exact_mod_cast hnext

/-- A value that is neither tiny nor enormous reads as a magnitude. -/
theorem exists_reads (hlow : (2 : ℚ) ^ (-1022 : ℤ) ≤ v) (hhigh : v < 2 ^ (1023 : ℤ)) :
    ∃ size : Magnitude, 0 < size.mantissa ∧ size.IsCanonical ∧ size.Reads v := by
  obtain ⟨scale, ⟨hleast, hmost⟩, hmin, hmax⟩ := exists_scale hlow hhigh
  obtain ⟨rounded, hrounded⟩ := exists_roundsTo (le_trans (by norm_num) hmin)
  obtain ⟨hlower, hupper⟩ := hrounded.bounds
  have hge : 2 ^ 52 ≤ rounded := by
    have hlt : (2 : ℚ) ^ 52 < rounded + 1 := by linarith
    have hnat : 2 ^ 52 < rounded + 1 := by exact_mod_cast hlt
    omega
  have hle : rounded ≤ 2 ^ 53 := by
    have hlt : (rounded : ℚ) < 2 ^ 53 + 1 := by linarith
    have hnat : rounded < 2 ^ 53 + 1 := by exact_mod_cast hlt
    omega
  rcases Nat.lt_or_eq_of_le hle with hlt | rfl
  · exact ⟨⟨rounded, scale⟩, Nat.lt_of_lt_of_le (by norm_num) hge,
      ⟨hlt, hleast, by dsimp only; omega, .inl hge⟩, reads_of_roundsTo hmin hrounded⟩
  · exact ⟨⟨2 ^ 52, scale + 1⟩, by norm_num,
      ⟨by norm_num, by dsimp only; omega, by dsimp only; omega, .inl le_rfl⟩,
      reads_of_carry hleast hmax hrounded⟩

/-- Canonical magnitudes are ordered by the exponent and then by the mantissa. -/
theorem value_lt_iff (hs : s.IsCanonical) (ht : t.IsCanonical) :
    s.value < t.value ↔
      s.exponent < t.exponent ∨ s.exponent = t.exponent ∧ s.mantissa < t.mantissa := by
  have hexponent : ∀ {s t : Magnitude}, s.IsCanonical → t.IsCanonical →
      s.exponent < t.exponent → s.value < t.value := by
    intro s t hs ht hlt
    have hvalue := ht.le_value (lt_of_le_of_lt hs.le_exponent hlt)
    have hhalf := value_add_half_le hs.mantissa_lt hlt
    have hpos := two_zpow_pos (t.exponent - 1)
    linarith
  rcases lt_trichotomy s.exponent t.exponent with hlt | heq | hgt
  · simp only [hexponent hs ht hlt, hlt, true_or]
  · have hpos := two_zpow_pos t.exponent
    rw [value, value, heq, mul_lt_mul_iff_left₀ hpos, Nat.cast_lt]
    simp
  · simp only [not_lt_of_gt (hexponent ht hs hgt), not_lt_of_gt hgt, hgt.ne', false_and, or_self]

end Magnitude

/-! ### Values of numbers -/

/-- The value of a finite number. -/
def toRat (x : Float) : ℚ :=
  if isNegative x then -(magnitude x).value else (magnitude x).value

section Values

variable {x y : Float}

/-- The size of a value is the magnitude. -/
theorem abs_toRat (x : Float) : |toRat x| = (magnitude x).value := by
  have hnonneg := (magnitude x).value_nonneg
  unfold toRat
  split
  · rw [abs_neg, abs_of_nonneg hnonneg]
  · rw [abs_of_nonneg hnonneg]

/-- A number is zero when its mantissa is. -/
theorem toRat_eq_zero_iff : toRat x = 0 ↔ (magnitude x).mantissa = 0 := by
  rw [← abs_eq_zero, abs_toRat, Magnitude.value, mul_eq_zero, Nat.cast_eq_zero]
  exact or_iff_left (two_zpow_pos _).ne'

/-- A number whose value is not zero has a positive mantissa. -/
theorem mantissa_pos (h : toRat x ≠ 0) : 0 < (magnitude x).mantissa :=
  Nat.pos_of_ne_zero (mt toRat_eq_zero_iff.mpr h)

/-- The sign bit of a number that is not zero is the sign of its value. -/
theorem isNegative_eq (h : toRat x ≠ 0) : isNegative x = decide (toRat x < 0) := by
  have hpos := Magnitude.value_pos (mantissa_pos h)
  unfold toRat
  cases isNegative x with
  | false => simp [hpos.le]
  | true => simp [hpos]

/-- Numbers compare as their values do. -/
theorem lt_iff_toRat_lt (hx : x.isFinite = true) (hy : y.isFinite = true) :
    x < y ↔ toRat x < toRat y := by
  change decide ((x.toModel.unpack.compare y.toModel.unpack == some .lt) = true) = true ↔ _
  have hcanonical := isCanonical_magnitude x hx
  have hcanonical' := isCanonical_magnitude y hy
  have hnonneg := (magnitude x).value_nonneg
  have hnonneg' := (magnitude y).value_nonneg
  rcases Nat.eq_zero_or_pos (magnitude x).mantissa with hzero | hpos <;>
    rcases Nat.eq_zero_or_pos (magnitude y).mantissa with hzero' | hpos'
  · rw [unpack_eq_zero x hx hzero, unpack_eq_zero y hy hzero', toRat_eq_zero_iff.mpr hzero,
      toRat_eq_zero_iff.mpr hzero']
    simp [UnpackedFloat.compare]
  · have hvalue := Magnitude.value_pos hpos'
    rw [unpack_eq_zero x hx hzero, unpack_eq_finite y hy hpos', toRat_eq_zero_iff.mpr hzero, toRat]
    cases isNegative y <;> simp [UnpackedFloat.compare, signOf, hvalue, hnonneg']
  · have hvalue := Magnitude.value_pos hpos
    rw [unpack_eq_finite x hx hpos, unpack_eq_zero y hy hzero', toRat_eq_zero_iff.mpr hzero', toRat]
    cases isNegative x <;> simp [UnpackedFloat.compare, signOf, hvalue, hnonneg]
  · have hvalue := Magnitude.value_pos hpos
    have hvalue' := Magnitude.value_pos hpos'
    rw [unpack_eq_finite x hx hpos, unpack_eq_finite y hy hpos', toRat, toRat]
    cases isNegative x <;> cases isNegative y
    · simp [UnpackedFloat.compare, signOf, Ordering.then_eq_lt,
        Magnitude.value_lt_iff hcanonical hcanonical', compare_lt_iff_lt]
    · have hlt : ¬ (magnitude x).value < -(magnitude y).value := by linarith
      simp [UnpackedFloat.compare, signOf, hlt]
    · have hlt : -(magnitude x).value < (magnitude y).value := by linarith
      simp [UnpackedFloat.compare, signOf, hlt]
    · rw [if_pos rfl, if_pos rfl, neg_lt_neg_iff, Magnitude.value_lt_iff hcanonical' hcanonical,
        eq_comm (a := (magnitude y).exponent)]
      simp [UnpackedFloat.compare, signOf, Ordering.then_eq_gt, Ordering.swap_eq_lt,
        compare_gt_iff_gt]

end Values

end ShapeLisp.Number
