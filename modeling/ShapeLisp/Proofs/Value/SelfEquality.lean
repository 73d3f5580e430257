import ShapeLisp.Proofs.Value.Conversion
import ShapeLisp.Proofs.Value.Parts
import ShapeLisp.Regex.Engine

/-!
# Values that equal themselves

Equality of values is symmetric and transitive, but a value need not equal itself. What keeps it
from doing so are parts that are not numbers where numbers are compared: a number that is none, a
range none of whose bounds is a number, for one bound gives way to the other, and a range whose step
is not a number. A value without such parts at any depth equals itself.
-/

namespace ShapeLisp

/-! ### Numbers -/

namespace Number

/-- What equals itself is a number, and every number does. -/
theorem beq_self_iff (x : Float) : (x == x) = true ↔ x.isNaN = false := by
  rw [Float.beq_self_iff, Float.isNaN_eq_decide_eq_nan, decide_eq_false_iff_not]

/-- Of two that give way to each other when they are no numbers, one is a number unless neither
is. -/
theorem isNaN_choice (a b : Float) (first : Prop) [Decidable first] :
    (if a.isNaN then b else if b.isNaN then a else if first then a else b).isNaN =
      (a.isNaN && b.isNaN) := by
  cases ha : a.isNaN with
  | true => rw [if_pos rfl, Bool.true_and]
  | false =>
    rw [if_neg Bool.false_ne_true, Bool.false_and]
    cases hb : b.isNaN with
    | true => rw [if_pos rfl, ha]
    | false =>
      rw [if_neg Bool.false_ne_true]
      split
      · exact ha
      · exact hb

/-- The lesser of two is a number unless neither is. -/
theorem isNaN_lesser (a b : Float) : (lesser a b).isNaN = (a.isNaN && b.isNaN) :=
  isNaN_choice a b (a < b)

/-- The greater of two is a number unless neither is. -/
theorem isNaN_greater (a b : Float) : (greater a b).isNaN = (a.isNaN && b.isNaN) :=
  isNaN_choice a b (b < a)

end Number

section AnyEngine

variable [Regex.Engine]

/-- A literal is written like itself. -/
theorem Regex.beq_self (literal : Regex) : (literal == literal) = true :=
  Bool.and_eq_true_iff.mpr ⟨beq_self_eq_true literal.source, beq_self_eq_true literal.flags⟩

namespace Value

open Number

/-- A value of its own that is not a number where numbers are compared. -/
inductive Numberless : Value → Prop where
  /-- A number that is none. -/
  | num {x : Float} : x.isNaN = true → Numberless (.num x)
  /-- A range none of whose bounds is a number. -/
  | bounds {start stop : Float} {step : Option Float} : start.isNaN = true → stop.isNaN = true →
    Numberless (.range start stop step)
  /-- A range whose step is not a number. -/
  | step {start stop step : Float} : step.isNaN = true → Numberless (.range start stop (some step))

/-- All JSON literals in the value, at any depth, hold documents that JSON data can be. -/
def DocumentsFormed (value : Value) : Prop :=
  ∀ document, (Value.json document).Within value → document.WellFormed

omit [Regex.Engine] in
/-- A step equals itself when it is a number or missing. -/
theorem sameStep_self_iff (step : Option Float) :
    sameStep step step = true ↔ ∀ x, step = some x → x.isNaN = false := by
  cases step with
  | none => simp [sameStep]
  | some x =>
    rw [sameStep, beq_self_iff]
    simp

/-- A number equals itself when it is one. -/
theorem num_beq_self_iff (x : Float) :
    beq (.num x) (.num x) = true ↔ ¬ (Value.num x).Numberless := by
  rw [beq, beq_self_iff, ← Bool.not_eq_true, not_iff_not]
  constructor
  · exact .num
  · rintro ⟨h⟩
    exact h

/-- A range equals itself when one of its bounds is a number and its step is no other thing. -/
theorem range_beq_self_iff (start stop : Float) (step : Option Float) :
    beq (.range start stop step) (.range start stop step) = true ↔
      ¬ (Value.range start stop step).Numberless := by
  rw [beq, Bool.and_eq_true_iff, Bool.and_eq_true_iff, beq_self_iff, beq_self_iff,
    sameStep_self_iff, isNaN_lesser, isNaN_greater, and_self]
  constructor
  · rintro ⟨hbounds, hstep⟩ hnone
    cases hnone with
    | bounds hstart hstop =>
      rw [hstart, hstop] at hbounds
      cases hbounds
    | step hnone =>
      rw [hstep _ rfl] at hnone
      cases hnone
  · intro h
    refine ⟨Bool.eq_false_iff.mpr fun hbounds => ?_,
      fun x hx => Bool.eq_false_iff.mpr fun hnone => ?_⟩
    · obtain ⟨hstart, hstop⟩ := Bool.and_eq_true_iff.mp hbounds
      exact h (.bounds hstart hstop)
    · subst hx
      exact h (.step hnone)

/-- In a value without parts only the value itself matters. -/
theorem beq_self_iff_of_isSimple {value : Value} (hsimple : value.IsSimple)
    (h : beq value value = true ↔ ¬ value.Numberless) :
    beq value value = true ↔ value.Everywhere fun part => ¬ part.Numberless := by
  rw [everywhere_of_isSimple value hsimple]
  exact h

mutual

/-- A value equals itself exactly when nothing in it is numberless. -/
theorem beq_self_iff_everywhere : ∀ (value : Value), value.DocumentsFormed →
    (beq value value = true ↔ value.Everywhere fun part => ¬ part.Numberless)
  | .list items, h => by
    rw [everywhere_list, beq, beqAll_self_iff_everywhere items fun item hmem document hpart =>
      h document (.item hmem hpart)]
    exact ⟨fun hitems => ⟨nofun, hitems⟩, And.right⟩
  | .quoted inner, h => by
    rw [everywhere_quoted, beq, beq_self_iff_everywhere inner fun document hpart =>
      h document (.inner hpart)]
    exact ⟨fun hinner => ⟨nofun, hinner⟩, And.right⟩
  | .closure params rest body scope, h => by
    rw [everywhere_closure, beq, Bool.and_eq_true_iff, Bool.and_eq_true_iff,
      beqAll_self_iff_everywhere params fun param hmem document hpart =>
        h document (.param hmem hpart),
      beq_self_iff_everywhere body fun document hpart => h document (.body hpart)]
    exact ⟨fun hparts => ⟨nofun, hparts.1⟩, fun hparts => ⟨hparts.2, beq_self_eq_true scope⟩⟩
  | .num x, _ => beq_self_iff_of_isSimple trivial (num_beq_self_iff x)
  | .range start stop step, _ =>
    beq_self_iff_of_isSimple trivial (range_beq_self_iff start stop step)
  | .json document, h =>
    beq_self_iff_of_isSimple trivial (iff_of_true (h document (.self _)).beq_self nofun)
  | .regex literal, _ => beq_self_iff_of_isSimple trivial (iff_of_true literal.beq_self nofun)
  | .bool value, _ => beq_self_iff_of_isSimple trivial (iff_of_true (beq_self_eq_true value) nofun)
  | .str text, _ | .sym text, _ | .pointer text, _ | .builtin text, _ =>
    beq_self_iff_of_isSimple trivial (iff_of_true (beq_self_eq_true text) nofun)
  | .nil, _ => beq_self_iff_of_isSimple trivial (iff_of_true rfl nofun)

/-- Values equal themselves item by item exactly when nothing in them is numberless. -/
theorem beqAll_self_iff_everywhere : ∀ (values : List Value),
    (∀ value ∈ values, value.DocumentsFormed) →
    (beqAll values values = true ↔
      ∀ value ∈ values, value.Everywhere fun part => ¬ part.Numberless)
  | [], _ => by simp [beqAll]
  | value :: rest, h => by
    rw [List.forall_mem_cons, beqAll, Bool.and_eq_true_iff,
      beq_self_iff_everywhere value (h value List.mem_cons_self),
      beqAll_self_iff_everywhere rest fun other hmem => h other (List.mem_cons_of_mem _ hmem)]

end

/-- Equality of values is a partial equivalence: it is symmetric and transitive, and a value whose
JSON literals hold JSON data equals itself exactly when nothing in it is numberless, in lists and
quotations and in the parameters and bodies of closures. -/
theorem equality_is_partial :
    (∀ a b : Value, (a == b) = true → (b == a) = true) ∧
      (∀ a b c : Value, (a == b) = true → (b == c) = true → (a == c) = true) ∧
      ∀ a : Value, a.DocumentsFormed →
        ((a == a) = true ↔ ∀ part : Value, part.Within a → ¬ part.Numberless) :=
  ⟨fun _ _ => BEq.symm, fun _ _ _ => BEq.trans, fun a => a.beq_self_iff_everywhere⟩

end Value

end AnyEngine

namespace Value

/-- A closure whose body holds a document and a range with a stop and without a start. -/
def halfBounded : Value :=
  .closure [.sym "x"] none (.list [.json (.float 0.5), .range (0.0 / 0.0) 1.0 none]) 0

/-- One bound is enough for a range, so the closure equals itself; a range without both bounds does
not, and neither does a quotation of it. -/
theorem equality_is_partial_of_half_bounded :
    halfBounded.DocumentsFormed ∧ (∀ part : Value, part.Within halfBounded → ¬ part.Numberless) ∧
      (Value.quoted (.range (0.0 / 0.0) (0.0 / 0.0) none)).DocumentsFormed ∧
      (Value.quoted (.range (0.0 / 0.0) (0.0 / 0.0) none) ==
        .quoted (.range (0.0 / 0.0) (0.0 / 0.0) none)) = false := by
  have hformed : halfBounded.DocumentsFormed := by
    intro document hpart
    cases hpart with
    | param hmem hpart =>
      rw [List.mem_singleton.mp hmem] at hpart
      cases hpart
    | body hpart =>
      cases hpart with
      | item hmem hpart =>
        rcases List.mem_pair.mp hmem with rfl | rfl
        · cases hpart
          exact (by decide +kernel : (0.5 : Float).isFinite = true)
        · cases hpart
  have hequal : (halfBounded == halfBounded) = true := by decide +kernel
  have hquoted : (Value.quoted (.range (0.0 / 0.0) (0.0 / 0.0) none)).DocumentsFormed := by
    intro document hpart
    cases hpart with
    | inner hpart => cases hpart
  have hnone : (0.0 / 0.0 : Float).isNaN = true := by decide +kernel
  refine ⟨hformed, (equality_is_partial.2.2 halfBounded hformed).mp hequal, hquoted, ?_⟩
  rw [← Bool.not_eq_true, equality_is_partial.2.2 _ hquoted]
  exact fun hnowhere => hnowhere _ (.inner (.self _)) (.bounds hnone hnone)

end Value

end ShapeLisp
