import Mathlib
import ShapeLisp.Proofs.Eval.Outcome
import ShapeLisp.Proofs.Number.Arithmetic
import ShapeLisp.Regex.Engine

/-!
# Ranges over integers

A range applied to a function calls it on every number of a progression, in order and until the
first error. For integers the numbers are computed exactly, but one that lies within a billionth of
the end, relative to the size of the end, is taken for the end.
-/

namespace ShapeLisp

open ShapeLisp.Number

namespace Operators

/-! ### The tolerance -/

/-- The tolerance is the number nearest to a billionth. -/
theorem tolerance_fields :
    tolerance.isFinite = true ∧ toRat tolerance = 4835703278458517 / 2 ^ 82 := by
  have hfields : tolerance.isFinite = true ∧ isNegative tolerance = false ∧
      magnitude tolerance = ⟨4835703278458517, -82⟩ := by decide +kernel
  obtain ⟨hfinite, hsign, hmagnitude⟩ := hfields
  refine ⟨hfinite, ?_⟩
  rw [toRat, hsign, hmagnitude, if_neg Bool.false_ne_true, Magnitude.value]
  norm_num

/-- A whole number as a magnitude without a fraction has its value. -/
theorem value_whole (n : ℕ) : (⟨n, 0⟩ : Magnitude).value = n := by
  rw [Magnitude.value, zpow_zero, mul_one]

/-- What lies a power of two below a whole number is a magnitude at this power. -/
theorem value_below (n bits : ℕ) :
    (⟨(n + 1) * 2 ^ bits - 1, -bits⟩ : Magnitude).value = n + 1 - 1 / 2 ^ bits := by
  have hpos : (0 : ℚ) < 2 ^ bits := by positivity
  have hone : 1 ≤ (n + 1) * 2 ^ bits := Nat.mul_pos n.succ_pos (Nat.two_pow_pos bits)
  rw [Magnitude.value, Nat.cast_sub hone, zpow_neg, zpow_natCast]
  push_cast
  field_simp

/-- How near to the end of a range a number is taken for the end is rounded once. -/
theorem rounds_tolerance_mul {size : ℤ} (hsize : 0 < size) (hlt : size.natAbs < 2 ^ 53) :
    0 < toRat tolerance * size ∧
      Rounds (toRat tolerance * size) (tolerance * Float.ofInt size) := by
  obtain ⟨hfinite, hvalue⟩ := tolerance_fields
  obtain ⟨hfinite', hvalue'⟩ := ofInt_fields hlt
  have hone : (1 : ℚ) ≤ size := by exact_mod_cast hsize
  have hmost : (size : ℚ) ≤ 2 ^ 53 := by
    have : size ≤ 2 ^ 53 := by omega
    exact_mod_cast this
  have hpos : 0 < toRat tolerance * size := by
    rw [hvalue]
    positivity
  refine ⟨hpos, ?_⟩
  rw [← hvalue'] at hpos ⊢
  apply rounds_mul hfinite hfinite'
  apply isNormal_of_le <;> rw [abs_of_pos hpos, hvalue, hvalue']
  · linarith
  · linarith

/-- Numbers are taken for the end of a range when they are nearer to it than a billionth of its
size. The product with the tolerance is rounded, but never across a whole number. -/
theorem lt_tolerance_mul_iff {gap size : ℤ} (hgap : 0 < gap) (hgaplt : gap.natAbs < 2 ^ 53)
    (hsize : 0 < size) (hsizelt : size.natAbs < 2 ^ 53) (hborder : size ≠ 10 ^ 9 * gap) :
    Float.ofInt gap < tolerance * Float.ofInt size ↔ 10 ^ 9 * gap < size := by
  obtain ⟨-, hvalue⟩ := tolerance_fields
  obtain ⟨hfinite, hself⟩ := ofInt_fields hgaplt
  obtain ⟨hpos, hrounds⟩ := rounds_tolerance_mul hsize hsizelt
  have hmost : (size : ℚ) ≤ 2 ^ 53 := by
    have : size ≤ 2 ^ 53 := by omega
    exact_mod_cast this
  rw [lt_iff_toRat_lt hfinite hrounds.isFinite, hself]
  rcases lt_or_gt_of_ne hborder with hless | hmore
  · have hunit : (size : ℚ) + 1 ≤ 10 ^ 9 * gap := by exact_mod_cast hless
    have hwhole : (⟨gap.natAbs, 0⟩ : Magnitude).value = gap := by
      rw [value_whole, Nat.cast_natAbs, abs_of_pos hgap]
    have hexact : toRat tolerance * size ≤ gap := by
      rw [hvalue]
      -- the error of the tolerance counts only where the gap is wider than the product can be
      rcases le_or_gt (gap : ℚ) (10 ^ 7) with hsmall | hlarge
      · linarith
      · linarith
    have hle := hrounds.toRat_le (t := ⟨gap.natAbs, 0⟩) hgaplt (by norm_num) hpos
      (hexact.trans hwhole.ge)
    rw [hwhole] at hle
    exact iff_of_false (not_lt.mpr hle) (not_lt.mpr hless.le)
  · -- the product is more than half a unit of the last place above the gap, which is below `2 ^ 24`
    have hgap' : (0 : ℚ) < gap := by exact_mod_cast hgap
    have hunit : 10 ^ 9 * (gap : ℚ) + 1 ≤ size := by exact_mod_cast hmore
    refine iff_of_true (not_le.mp fun hle => ?_) hmore
    have hhalf := hrounds.le_add_half hpos (show -1074 ≤ (-29 : ℤ) by norm_num)
      (by norm_num; linarith)
    rw [hvalue] at hhalf
    norm_num at hhalf
    linarith

/-! ### The numbers of a range -/

/-- An integer that lies nearer to the end than a billionth of the size of the end is taken for the
end. -/
def snapped (stop current : ℤ) : ℤ :=
  if 10 ^ 9 * |current - stop| < |stop| then stop else current

/-- The number one is the integer. -/
theorem one_eq_ofInt : (1.0 : Float) = Float.ofInt 1 := eq_of_toBits_eq (by decide +kernel)

/-- Integers are taken for the end exactly when `snapped` says so. -/
theorem snap_ofInt {stop current : ℤ} (hstop : stop.natAbs < 2 ^ 53)
    (hcurrent : current.natAbs < 2 ^ 53) (hgap : (current - stop).natAbs < 2 ^ 53)
    (hborder : current ≠ stop → |stop| ≠ 10 ^ 9 * |current - stop|) :
    snap (Float.ofInt current) (Float.ofInt stop) = Float.ofInt (snapped stop current) := by
  have hstop' : |stop|.natAbs < 2 ^ 53 := by rwa [Int.natAbs_abs]
  have hgap' : |current - stop|.natAbs < 2 ^ 53 := by rwa [Int.natAbs_abs]
  unfold snap snapped
  rw [ofInt_sub hcurrent hstop hgap, abs_ofInt hgap, abs_ofInt hstop, one_eq_ofInt,
    greater_ofInt hstop' (by norm_num)]
  rcases eq_or_ne current stop with rfl | hne
  · rw [ite_self, ite_self]
  · have hpos : 0 < |current - stop| := abs_pos.mpr (sub_ne_zero.mpr hne)
    have hne' := hborder hne
    generalize |current - stop| = gap at *
    generalize |stop| = size at *
    have hiff : Float.ofInt gap < tolerance * Float.ofInt (max size 1) ↔ 10 ^ 9 * gap < size := by
      rw [lt_tolerance_mul_iff hpos hgap' (by omega) (by omega) (by omega)]
      omega
    by_cases h : 10 ^ 9 * gap < size
    · rw [if_pos h, if_pos (hiff.mpr h)]
    · rw [if_neg h, if_neg (mt hiff.mp h)]

/-- The integer at an index on the way from a start to a stop. -/
def integerAt (start stop : ℤ) (step index : ℕ) : ℤ :=
  if stop < start then start - index * step else start + index * step

/-- The integers from a start up or down to a stop, a step apart. -/
def integers (start stop : ℤ) (step : ℕ) : List ℤ :=
  (List.range ((stop - start).natAbs / step + 1)).map (integerAt start stop step)

/-- The step with the sign of its direction. -/
def signedStep (start stop : ℤ) (step : ℕ) : ℤ :=
  if stop < start then -step else step

/-- The size of the signed step is the step. -/
theorem natAbs_signedStep (start stop : ℤ) (step : ℕ) :
    (signedStep start stop step).natAbs = step := by
  unfold signedStep
  split <;> omega

/-- The span over the signed step is its size over the step. -/
theorem div_signedStep (start stop : ℤ) (step : ℕ) :
    ((stop - start : ℤ) : ℚ) / (signedStep start stop step : ℤ) =
      ((stop - start).natAbs : ℚ) / step := by
  rw [Nat.cast_natAbs, signedStep]
  split
  · next hlt =>
    rw [abs_of_neg (by omega)]
    push_cast
    rw [div_neg, neg_div]
  · next hle => rw [abs_of_nonneg (by omega), Int.cast_natCast]

/-- Bounds of a range that are integers and numbers, with a whole step that is one unless given,
and no more steps than a range may have. -/
structure IsWhole (start stop : ℤ) (step : ℕ) (given : Option Float) : Prop where
  /-- The start is a number. -/
  start_lt : start.natAbs < 2 ^ 53
  /-- The stop is a number. -/
  stop_lt : stop.natAbs < 2 ^ 53
  /-- The step is not zero. -/
  step_pos : 0 < step
  /-- The step is a number. -/
  step_lt : step < 2 ^ 53
  /-- The step is the one given, or one. -/
  given_eq : given = some (Float.ofInt step) ∨ given = none ∧ step = 1
  /-- There are not too many steps. -/
  span_le : (stop - start).natAbs ≤ 10 ^ 7 * step

/-- A whole range that is computed as it is meant, but for what is taken for its end: the span is a
number, the step that goes beyond the stop, if any, goes clearly beyond it, and no integer lies just
as far from the stop as the tolerance reaches. -/
structure IsExact (start stop : ℤ) (step : ℕ) (given : Option Float) : Prop
    extends IsWhole start stop step given where
  /-- The span is a number. -/
  span_lt : (stop - start).natAbs < 2 ^ 53
  /-- What is missing to one more step is not a tiny part of the step. -/
  step_le : step ≤ 2 ^ 28 * (step - (stop - start).natAbs % step)
  /-- No distance to the stop is exactly a billionth of the stop. -/
  border : ∀ current ∈ integers start stop step,
    current ≠ stop → |stop| ≠ 10 ^ 9 * |current - stop|

section Computing

variable {start stop : ℤ} {step : ℕ} {given : Option Float}

/-- The size of the step is the step. -/
theorem IsWhole.size_eq (h : IsWhole start stop step given) :
    (given.getD 1.0).abs = Float.ofInt step := by
  have habs := abs_ofInt (z := step) h.step_lt
  rw [Nat.abs_cast] at habs
  rcases h.given_eq with rfl | ⟨rfl, hone⟩
  · exact habs
  · subst hone
    rw [Option.getD_none, one_eq_ofInt]
    exact_mod_cast habs

/-- The steps of a range are not too many. -/
theorem IsWhole.count_le (h : IsWhole start stop step given) :
    (stop - start).natAbs / step ≤ 10 ^ 7 :=
  Nat.div_le_of_le_mul (by rw [Nat.mul_comm]; exact h.span_le)

namespace IsExact

variable (h : IsExact start stop step given)
include h

/-- The exact quotient of the span and the step lies between two whole numbers, and the greater one
is not too near. -/
theorem span_div_bounds :
    (((stop - start).natAbs / step : ℕ) : ℚ) ≤ ((stop - start).natAbs : ℚ) / step ∧
      ((stop - start).natAbs : ℚ) / step ≤ ((stop - start).natAbs / step : ℕ) + 1 - 1 / 2 ^ 28 := by
  have hstep := h.step_pos
  have hpos : (0 : ℚ) < step := by exact_mod_cast hstep
  refine ⟨Nat.cast_div_le, ?_⟩
  have hrest := Nat.mod_lt (stop - start).natAbs hstep
  have hsplit := Nat.div_add_mod (stop - start).natAbs step
  have hlast := h.step_le
  generalize (stop - start).natAbs / step = count at *
  generalize (stop - start).natAbs % step = rest at *
  have hlast' : (step : ℚ) ≤ 2 ^ 28 * (step - rest) := by
    rw [← Nat.cast_sub hrest.le]
    exact_mod_cast hlast
  have hsplit' : (step : ℚ) * count + rest = ((stop - start).natAbs : ℚ) := by
    exact_mod_cast hsplit
  rw [div_le_iff₀ hpos, ← hsplit']
  linarith

/-- The quotient of the span and the step keeps to the bounds of the exact one. -/
theorem quotient_bounds :
    (Float.ofInt (stop - start) / Float.ofInt (signedStep start stop step)).isFinite = true ∧
      ((stop - start).natAbs / step : ℕ) ≤
        toRat (Float.ofInt (stop - start) / Float.ofInt (signedStep start stop step)) ∧
      toRat (Float.ofInt (stop - start) / Float.ofInt (signedStep start stop step)) ≤
        ((stop - start).natAbs / step : ℕ) + 1 - 1 / 2 ^ 28 := by
  have hstep := h.step_pos
  have hcount := h.count_le
  have hsigned : (signedStep start stop step).natAbs < 2 ^ 53 := by
    rw [natAbs_signedStep]
    exact h.step_lt
  obtain ⟨hfinite, hvalue⟩ := ofInt_fields h.span_lt
  obtain ⟨hfinite', hvalue'⟩ := ofInt_fields hsigned
  have hquotient := div_signedStep start stop step
  obtain ⟨hlower, hupper⟩ := h.span_div_bounds
  rcases eq_or_ne (stop - start) 0 with hzero | hne
  · have hsigned' : (signedStep start stop step : ℚ) ≠ 0 := by
      have hsize := natAbs_signedStep start stop step
      have hne : signedStep start stop step ≠ 0 := by omega
      exact_mod_cast hne
    obtain ⟨sign, heq⟩ := div_eq_zero_of hfinite hfinite' (by rw [hvalue, hzero, Int.cast_zero])
      (by rwa [hvalue'])
    obtain ⟨hfinite'', hvalue''⟩ := zero_fields sign
    rw [heq, hvalue'', hzero, Int.natAbs_zero, Nat.zero_div]
    exact ⟨hfinite'', by norm_num, by norm_num⟩
  · have hspanpos := Int.natAbs_pos.mpr hne
    have hpos : 0 < ((stop - start).natAbs : ℚ) / step :=
      div_pos (by exact_mod_cast hspanpos) (by exact_mod_cast hstep)
    have hrounds : Rounds (((stop - start).natAbs : ℚ) / step)
        (Float.ofInt (stop - start) / Float.ofInt (signedStep start stop step)) := by
      rw [← hquotient, ← hvalue, ← hvalue']
      apply rounds_div hfinite hfinite'
      rw [hvalue, hvalue', hquotient]
      exact isNormal_div hspanpos h.span_lt hstep h.step_lt
    -- both bounds are numbers themselves, and rounding does not go across a number
    refine ⟨hrounds.isFinite, ?_, ?_⟩
    · rw [← value_whole] at hlower ⊢
      exact hrounds.le_toRat (by dsimp only; omega) (by norm_num) hpos hlower
    · have hbelow := value_below ((stop - start).natAbs / step) 28
      rw [← hbelow] at hupper ⊢
      exact hrounds.toRat_le (by dsimp only; omega) (by norm_num) hpos hupper

/-- The floor of the quotient with the tolerance is the whole quotient: the tolerance is less than
half of what is missing to the next whole number. -/
theorem floor_steps :
    floor (Float.ofInt (stop - start) / Float.ofInt (signedStep start stop step) + tolerance) =
      Float.ofInt ((stop - start).natAbs / step : ℕ) := by
  obtain ⟨hfinite, hlower, hupper⟩ := h.quotient_bounds
  obtain ⟨hfinite', hvalue⟩ := tolerance_fields
  have hcount := h.count_le
  generalize Float.ofInt (stop - start) / Float.ofInt (signedStep start stop step) = quotient at *
  generalize (stop - start).natAbs / step = count at *
  have hnonneg : (0 : ℚ) ≤ count := Nat.cast_nonneg _
  have hmost : (count : ℚ) ≤ 10 ^ 7 := by exact_mod_cast hcount
  have hpos : 0 < toRat quotient + toRat tolerance := by
    rw [hvalue]
    linarith
  have hrounds : Rounds (toRat quotient + toRat tolerance) (quotient + tolerance) := by
    apply rounds_add hfinite hfinite'
    apply isNormal_of_le <;> rw [abs_of_pos hpos, hvalue]
    · norm_num
      linarith
    · norm_num
      linarith
  have hself := value_whole count
  have hbelow := value_below count 29
  have hle : (count : ℚ) ≤ toRat (quotient + tolerance) := by
    rw [← hself]
    refine hrounds.le_toRat (by dsimp only; omega) (by norm_num) hpos ?_
    rw [hself, hvalue]
    linarith
  have hge : toRat (quotient + tolerance) ≤ count + 1 - 1 / 2 ^ 29 := by
    rw [← hbelow]
    refine hrounds.toRat_le (by dsimp only; omega) (by norm_num) hpos ?_
    rw [hbelow, hvalue]
    linarith
  exact floor_eq hrounds.isFinite (hrounds.toRat_pos hpos) hle (by linarith) (by omega)

/-- The progression of the range. -/
theorem ofRange_eq [Regex.Engine] :
    Progression.ofRange (Float.ofInt start) (Float.ofInt stop) given =
      .ok ⟨Float.ofInt start, Float.ofInt (signedStep start stop step), Float.ofInt stop,
        (stop - start).natAbs / step + 1⟩ := by
  have hne : (step : ℤ) ≠ 0 := by
    have := h.step_pos
    omega
  have hcount := h.count_le
  have hfinite := (ofInt_fields (z := step) h.step_lt).1
  have hsigned : (if Float.ofInt stop < Float.ofInt start then -Float.ofInt step
      else Float.ofInt step) = Float.ofInt (signedStep start stop step) := by
    unfold signedStep
    simp only [ofInt_lt_iff h.stop_lt h.start_lt]
    split
    · exact neg_ofInt (z := step) h.step_lt hne
    · rfl
  have hmost : maxSteps = Float.ofInt (10 ^ 7) := eq_of_toBits_eq (by decide +kernel)
  unfold Progression.ofRange
  dsimp only
  rw [h.size_eq, ofInt_beq_zero (z := step) h.step_lt hne, hfinite, hsigned,
    ofInt_sub h.stop_lt h.start_lt h.span_lt, h.floor_steps, hmost]
  generalize (stop - start).natAbs / step = count at *
  have hsmall : count < 2 ^ 53 := by omega
  have hfew : ¬ Float.ofInt (10 ^ 7) < Float.ofInt count := by
    rw [ofInt_lt_iff (by norm_num) (b := count) hsmall]
    omega
  rw [(ofInt_fields (z := count) hsmall).1, if_neg (by decide), if_neg (by simpa using hfew),
    integerPart_ofInt hsmall, Int.toNat_natCast]

/-- The integers lie between the bounds. -/
theorem integerAt_bounds {index : ℕ} (hindex : index < (stop - start).natAbs / step + 1) :
    (index * signedStep start stop step).natAbs < 2 ^ 53 ∧
      (integerAt start stop step index).natAbs < 2 ^ 53 ∧
      (integerAt start stop step index - stop).natAbs < 2 ^ 53 ∧
      start + index * signedStep start stop step = integerAt start stop step index := by
  have hstart := h.start_lt
  have hstop := h.stop_lt
  have hspan := h.span_lt
  have hle : index * step ≤ (stop - start).natAbs :=
    (Nat.mul_le_mul_right step (Nat.le_of_lt_succ hindex)).trans (Nat.div_mul_le_self _ _)
  have hcast := Int.ofNat_le.mpr hle
  have hnonneg : (0 : ℤ) ≤ index * step := by positivity
  rw [Nat.cast_mul] at hcast
  unfold integerAt signedStep
  split
  · rw [mul_neg]
    generalize (index : ℤ) * step = distance at *
    omega
  · generalize (index : ℤ) * step = distance at *
    omega

/-- The numbers of the progression are the integers, but those that are taken for the end. -/
theorem item_eq {index : ℕ} (hindex : index < (stop - start).natAbs / step + 1) (count : ℕ) :
    Progression.item ⟨Float.ofInt start, Float.ofInt (signedStep start stop step),
        Float.ofInt stop, count⟩ index =
      Float.ofInt (snapped stop (integerAt start stop step index)) := by
  obtain ⟨hproduct, hcurrent, hgap, hsum⟩ := h.integerAt_bounds hindex
  have hcount := h.count_le
  have hsigned := natAbs_signedStep start stop step
  have hsteplt := h.step_lt
  obtain ⟨hfinite, hvalue⟩ := ofInt_mul (a := index) (by omega) (by omega) hproduct
  have hexact : Float.ofInt start + Float.ofInt index * Float.ofInt (signedStep start stop step) =
      Float.ofInt (integerAt start stop step index) := by
    apply ofInt_add h.start_lt hfinite hcurrent
    rw [hvalue, ← hsum]
    push_cast
    rfl
  change snap (Float.ofInt start + Float.ofInt index * _) _ = _
  rw [hexact]
  exact snap_ofInt h.stop_lt hcurrent hgap
    (h.border _ (List.mem_map_of_mem (List.mem_range.mpr hindex)))

end IsExact

/-- The integers of a range with those that are taken for the end replaced by it. -/
def visited (start stop : ℤ) (step : ℕ) : List ℤ :=
  (integers start stop step).map (snapped stop)

/-- The numbers of the progression are the visited integers. -/
theorem IsExact.map_item_eq (h : IsExact start stop step given) (count : ℕ) :
    (List.range ((stop - start).natAbs / step + 1)).map
        (Progression.item ⟨Float.ofInt start, Float.ofInt (signedStep start stop step),
          Float.ofInt stop, count⟩) =
      (visited start stop step).map Float.ofInt := by
  rw [visited, integers, List.map_map, List.map_map]
  apply List.map_congr_left
  intro index hindex
  exact h.item_eq (List.mem_range.mp hindex) count

/-- An integer other than the end stays as it is when it is not too near to the end. -/
theorem snapped_eq_self_iff {stop current : ℤ} :
    snapped stop current = current ↔ (current ≠ stop → |stop| ≤ 10 ^ 9 * |current - stop|) := by
  unfold snapped
  split
  · next hnear =>
    rw [eq_comm, ← not_ne_iff]
    exact ⟨fun heq hne => absurd hne heq, fun hfar hne => absurd (hfar hne) (not_le.mpr hnear)⟩
  · next hfar => exact iff_of_true rfl fun _ => not_lt.mp hfar

/-- The integers of a range are numbers, also where they are taken for the end. -/
theorem IsExact.numbers_lt (h : IsExact start stop step given) {current : ℤ}
    (hcurrent : current ∈ integers start stop step) :
    current.natAbs < 2 ^ 53 ∧ (snapped stop current).natAbs < 2 ^ 53 := by
  obtain ⟨index, hindex, rfl⟩ := List.mem_map.mp hcurrent
  have hlt := (h.integerAt_bounds (List.mem_range.mp hindex)).2.1
  refine ⟨hlt, ?_⟩
  unfold snapped
  split
  · exact h.stop_lt
  · exact hlt

end Computing

end Operators

/-! ### Calling a function -/

section AnyEngine

variable [Regex.Engine]

namespace Stage

/-- The numbers from an index on are mapped over, after the results so far. -/
theorem applyEach_eq (call : Value → Run Value) (numbers : Operators.Progression)
    (count index : ℕ) (results : List Value) :
    applyEach call numbers count index results =
      (fun rest => Value.list (results.reverse ++ rest)) <$>
        (List.range' index count).mapM fun i => call (.num (numbers.item i)) := by
  induction count generalizing index results with
  | zero => simp [applyEach]
  | succ count ih =>
    rw [List.range'_succ, List.mapM_cons, applyEach]
    simp [ih]

end Stage

namespace Operators

/-- Applying a range to a function, with or without more arguments, calls the function on integers,
in order and until the first error, and gives the list of the results. -/
def Calls (start stop : Float) (step : Option Float) (numbers : List ℤ) : Prop :=
  ∀ (stage : Stage) (callee : Value) (others : List Value) (scope : ScopeId),
    callee.isCallable = true →
      stage.applyOperator (.range start stop step) (callee :: others) scope =
        Value.list <$> numbers.mapM fun current =>
          stage.applyCallable callee [.num (Float.ofInt current)] scope

variable {start stop : ℤ} {step : ℕ} {given : Option Float}

/-- A range calls its function on the integers, but on the end in place of those that are taken for
it. -/
theorem IsExact.calls_visited (h : IsExact start stop step given) :
    Calls (Float.ofInt start) (Float.ofInt stop) given (visited start stop step) := by
  intro stage callee others scope hcallable
  change stage.applyRange _ _ _ (callee :: others) scope = _
  unfold Stage.applyRange
  dsimp only
  rw [if_pos hcallable, h.ofRange_eq]
  dsimp only
  rw [Stage.applyEach_eq, ← List.range_eq_range']
  have hitems := h.map_item_eq ((stop - start).natAbs / step + 1)
  generalize Progression.mk _ _ _ _ = numbers at hitems ⊢
  congr 1
  calc (List.range ((stop - start).natAbs / step + 1)).mapM
        (fun index => stage.applyCallable callee [.num (numbers.item index)] scope)
      = ((List.range ((stop - start).natAbs / step + 1)).map numbers.item).mapM
          (fun x => stage.applyCallable callee [.num x] scope) := by
        rw [List.mapM_map]
        rfl
    _ = ((visited start stop step).map Float.ofInt).mapM
          (fun x => stage.applyCallable callee [.num x] scope) := by rw [hitems]
    _ = (visited start stop step).mapM
          (fun current => stage.applyCallable callee [.num (Float.ofInt current)] scope) := by
        rw [List.mapM_map]
        rfl

/-! ### One sequence of numbers -/

/-- A host whose only function gives its argument back. -/
def returningHost : Host :=
  [⟨"same", {}, .plain fun args => .value (args.head?.getD .nil)⟩]

/-- An evaluation with this host. -/
def returningStage : Stage :=
  ⟨.standard returningHost, (Interpreter.standard returningHost).level 0⟩

/-- Calling the function on numbers gives the numbers back. -/
theorem outcome_returning (numbers : List ℤ) (world : World) :
    ∃ after, (numbers.mapM fun current => returningStage.applyCallable (.builtin "same")
        [.num (Float.ofInt current)] 0).outcome world =
      (.ok (numbers.map fun current => .num (Float.ofInt current)), after) := by
  induction numbers generalizing world with
  | nil => exact ⟨world, rfl⟩
  | cons current rest ih =>
    have hcall := returningStage.outcome_builtin "same" [.num (Float.ofInt current)] 0 world
    obtain ⟨after, hrest⟩ := ih _
    rw [List.mapM_cons]
    exact ⟨after, (Run.outcome_bind_ok hcall).trans (Run.outcome_bind_ok hrest)⟩

/-- A range calls its function on one sequence of numbers only. -/
theorem Calls.unique {start stop : Float} {step : Option Float} {numbers others : List ℤ}
    (h : Calls start stop step numbers) (h' : Calls start stop step others) :
    numbers.map Float.ofInt = others.map Float.ofInt := by
  have hruns := (h returningStage (.builtin "same") [] 0 rfl).symm.trans
    (h' returningStage (.builtin "same") [] 0 rfl)
  obtain ⟨after, hfirst⟩ := outcome_returning numbers ⟨⟨#[]⟩, #[]⟩
  obtain ⟨after', hsecond⟩ := outcome_returning others ⟨⟨#[]⟩, #[]⟩
  rw [map_eq_pure_bind, map_eq_pure_bind] at hruns
  have houtcome := congrArg (fun run => (Run.outcome run ⟨⟨#[]⟩, #[]⟩).1) hruns
  simp only [Run.outcome_bind_ok hfirst, Run.outcome_bind_ok hsecond, Run.outcome_pure,
    Except.ok.injEq, Value.list.injEq] at houtcome
  have hnum : Function.Injective Value.num := fun _ _ => Value.num.inj
  apply List.map_injective_iff.mpr hnum
  rw [List.map_map, List.map_map]
  exact houtcome

/-! ### The integers of a range -/

/-- A range calls its function on the visited integers. These are all integers from its start to its
stop, a step apart, exactly when none but the stop lies within a billionth of the size of the stop
from it. -/
theorem range_visits_integers (h : IsExact start stop step given) :
    Calls (Float.ofInt start) (Float.ofInt stop) given (visited start stop step) ∧
      (Calls (Float.ofInt start) (Float.ofInt stop) given (integers start stop step) ↔
        ∀ current ∈ integers start stop step,
          current ≠ stop → |stop| < 10 ^ 9 * |current - stop|) := by
  have hvisited := h.calls_visited
  refine ⟨hvisited, fun hcalls current hcurrent hne => ?_, fun hfar => ?_⟩
  · have hsame := hvisited.unique hcalls
    rw [visited, List.map_map, List.map_inj_left] at hsame
    obtain ⟨hlt, hlt'⟩ := h.numbers_lt hcurrent
    have hself := (ofInt_inj hlt' hlt).mp (hsame current hcurrent)
    exact lt_of_le_of_ne (snapped_eq_self_iff.mp hself hne) (h.border current hcurrent hne)
  · have hsame : visited start stop step = (integers start stop step).map id :=
      List.map_congr_left fun current hcurrent =>
        snapped_eq_self_iff.mpr fun hne => (hfar current hcurrent hne).le
    rw [List.map_id] at hsame
    rwa [hsame] at hvisited

end Operators

end AnyEngine

namespace Operators

/-- Just below a billion a range still reaches every integer. -/
theorem range_visits_integers_of_billion :
    IsExact 999999997 999999999 1 none ∧
      Calls (Float.ofInt 999999997) (Float.ofInt 999999999) none
        [999999997, 999999998, 999999999] := by
  have hexact : IsExact 999999997 999999999 1 none :=
    ⟨⟨by decide, by decide, by decide, by decide, .inr ⟨rfl, rfl⟩, by decide⟩, by decide, by decide,
      by decide +kernel⟩
  exact ⟨hexact, (range_visits_integers hexact).2.mpr (by decide +kernel)⟩

/-- Above a billion a range takes the integer before its end for the end, so not every range calls
its function on every integer. -/
theorem integer_before_end_passed_over :
    ¬ ∀ (start stop : ℤ) (step : ℕ) (given : Option Float), IsWhole start stop step given →
      Calls (Float.ofInt start) (Float.ofInt stop) given (integers start stop step) := by
  intro hevery
  have hexact : IsExact 999999999 1000000001 1 none :=
    ⟨⟨by decide, by decide, by decide, by decide, .inr ⟨rfl, rfl⟩, by decide⟩, by decide, by decide,
      by decide +kernel⟩
  have hsame := hexact.calls_visited.unique (hevery 999999999 1000000001 1 none hexact.toIsWhole)
  rw [visited, List.map_map, List.map_inj_left] at hsame
  have hbefore := hsame 1000000000 (by decide +kernel)
  have hsnapped : snapped 1000000001 1000000000 = 1000000001 := by decide +kernel
  rw [Function.comp_apply, hsnapped, ofInt_inj (by decide) (by decide)] at hbefore
  exact absurd hbefore (by decide)

end Operators

end ShapeLisp
