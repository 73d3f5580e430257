import ShapeLisp.Proofs.Number.Binary64
import ShapeLisp.Value.Basic
import Mathlib.Data.List.Forall2

/-!
# Equality of values

Equality is not identity: a range equals the one declared in the other direction, the two zeros are
equal, and closures are compared without the name of their rest parameter. Nor is it reflexive, for
what is not a number equals nothing. But equal values cannot be told apart by equality: it is
symmetric and transitive, for numbers, documents and values alike.
-/

namespace ShapeLisp

/-! ### Numbers -/

namespace Number

open Float.Model

/-- Numbers that compare as equal are identical or are zeros. -/
theorem eq_or_zero_of_compare {a b : UnpackedFloat} (h : a.compare b = some .eq) :
    a = b ∨ ∃ first second, a = .zero first ∧ b = .zero second := by
  cases a with
  | notANumber => cases h
  | infinity s =>
    rcases b with ⟨_ | _⟩ | _ | _ | ⟨_ | _, _, _, _⟩ <;> cases s <;> cases h <;> exact .inl rfl
  | zero s =>
    rcases b with ⟨_ | _⟩ | _ | t | ⟨_ | _, _, _, _⟩ <;> cases h
    exact .inr ⟨s, t, rfl, rfl⟩
  | finite s m e hm =>
    rcases b with ⟨_ | _⟩ | _ | _ | ⟨_ | _, n, f, hn⟩ <;> cases s <;> try cases h
    all_goals
      have hparts : e = f ∧ m = n := by
        simpa [UnpackedFloat.compare, Ordering.then_eq_eq, Ordering.swap_eq_eq] using h
      obtain ⟨rfl, rfl⟩ := hparts
      exact .inl rfl

/-- Numbers that compare as equal compare alike with every number. -/
theorem compare_congr {a b : UnpackedFloat} (h : a.compare b = some .eq) (c : UnpackedFloat) :
    a.compare c = b.compare c ∧ c.compare a = c.compare b := by
  rcases eq_or_zero_of_compare h with rfl | ⟨first, second, rfl, rfl⟩
  · exact ⟨rfl, rfl⟩
  · rcases c with ⟨_ | _⟩ | _ | _ | ⟨_ | _, _, _, _⟩ <;> exact ⟨rfl, rfl⟩

section Comparisons

variable {x y : Float}

/-- Equal numbers compare as equal. -/
theorem compare_of_beq (h : (x == y) = true) :
    x.toModel.unpack.compare y.toModel.unpack = some .eq := by
  change (x.toModel.unpack.compare y.toModel.unpack == some .eq) = true at h
  exact eq_of_beq h

/-- Equal numbers are the same, up to the sign of zero. -/
theorem same_of_beq (hx : x.isFinite = true) (h : (x == y) = true) : Same x y := by
  rcases eq_or_zero_of_compare (compare_of_beq h) with hunpack | hzeros
  · have hy : y.isFinite = true := by
      change y.toModel.unpack.isFinite = true
      rw [← hunpack]
      exact hx
    rcases Nat.eq_zero_or_pos (magnitude x).mantissa with hzero | hpos
    · have hzero' := unpack_eq_zero x hx hzero
      exact .inr ⟨_, _, hzero', hunpack ▸ hzero'⟩
    · rcases Nat.eq_zero_or_pos (magnitude y).mantissa with hzero | hpos'
      · rw [unpack_eq_finite x hx hpos, unpack_eq_zero y hy hzero] at hunpack
        cases hunpack
      · rw [unpack_eq_finite x hx hpos, unpack_eq_finite y hy hpos'] at hunpack
        rw [← ofMagnitude_eq hx rfl hpos, ← ofMagnitude_eq hy rfl hpos']
        exact .inl (congrArg (fun unpacked => Float.ofModel (Float.Model.pack unpacked)) hunpack)
  · exact .inr hzeros

/-- Equality does not tell equal numbers apart. -/
theorem beq_congr (h : (x == y) = true) (z : Float) :
    (x == z) = (y == z) ∧ (z == x) = (z == y) := by
  have hcompare := compare_congr (compare_of_beq h) z.toModel.unpack
  constructor
  · change (x.toModel.unpack.compare z.toModel.unpack == some .eq) =
      (y.toModel.unpack.compare z.toModel.unpack == some .eq)
    rw [hcompare.1]
  · change (z.toModel.unpack.compare x.toModel.unpack == some .eq) =
      (z.toModel.unpack.compare y.toModel.unpack == some .eq)
    rw [hcompare.2]

/-- The order does not tell equal numbers apart. -/
theorem le_congr (h : (x == y) = true) (z : Float) : (x ≤ z ↔ y ≤ z) ∧ (z ≤ x ↔ z ≤ y) := by
  have hcompare := compare_congr (compare_of_beq h) z.toModel.unpack
  constructor
  · change decide (x.toModel.unpack.le z.toModel.unpack = true) = true ↔
      decide (y.toModel.unpack.le z.toModel.unpack = true) = true
    rw [UnpackedFloat.le, UnpackedFloat.le, hcompare.1]
  · change decide (z.toModel.unpack.le x.toModel.unpack = true) = true ↔
      decide (z.toModel.unpack.le y.toModel.unpack = true) = true
    rw [UnpackedFloat.le, UnpackedFloat.le, hcompare.2]

end Comparisons

end Number

/-! ### Documents -/

/-- An equality test does not tell two things apart. -/
def Indistinct {α : Type} (equal : α → α → Bool) (a b : α) : Prop :=
  ∀ c, equal a c = equal b c ∧ equal c a = equal c b

/-- A thing is not told apart from itself. -/
theorem Indistinct.refl {α : Type} (equal : α → α → Bool) (a : α) : Indistinct equal a a :=
  fun _ => ⟨rfl, rfl⟩

namespace Json

mutual

/-- Equal documents are not told apart by equality. -/
theorem indistinct_of_beq : ∀ (a b : Json), beq a b = true → Indistinct beq a b
  | .null, b, h => by
    cases b with
    | null => exact .refl _ _
    | _ => cases h
  | .bool x, b, h => by
    cases b with
    | bool y =>
      obtain rfl := eq_of_beq h
      exact .refl _ _
    | _ => cases h
  | .int x, b, h => by
    cases b with
    | int y =>
      obtain rfl := eq_of_beq h
      exact .refl _ _
    | _ => cases h
  | .float x, b, h => by
    cases b with
    | float y =>
      intro c
      cases c with
      | float z => exact Number.beq_congr h z
      | _ => exact ⟨rfl, rfl⟩
    | _ => cases h
  | .str x, b, h => by
    cases b with
    | str y =>
      obtain rfl := eq_of_beq h
      exact .refl _ _
    | _ => cases h
  | .arr items, b, h => by
    cases b with
    | arr others =>
      intro c
      cases c with
      | arr more => exact indistinct_of_beqItems items others h more
      | _ => exact ⟨rfl, rfl⟩
    | _ => cases h
  | .obj members, b, h => by
    cases b with
    | obj others =>
      intro c
      cases c with
      | obj more => exact indistinct_of_beqMembers members others h more
      | _ => exact ⟨rfl, rfl⟩
    | _ => cases h

/-- Equal arrays are not told apart by equality. -/
theorem indistinct_of_beqItems :
    ∀ (as bs : List Json), beqItems as bs = true → Indistinct beqItems as bs
  | [], bs, h => by
    cases bs with
    | nil => exact .refl _ _
    | cons => cases h
  | a :: as, bs, h => by
    cases bs with
    | nil => cases h
    | cons b bs =>
      obtain ⟨hfirst, hothers⟩ := Bool.and_eq_true_iff.mp h
      intro cs
      cases cs with
      | nil => exact ⟨rfl, rfl⟩
      | cons c cs =>
        have hitem := indistinct_of_beq a b hfirst c
        have hmore := indistinct_of_beqItems as bs hothers cs
        simp only [beqItems, hitem, hmore, and_self]

/-- Equal members are not told apart by equality. -/
theorem indistinct_of_beqMembers :
    ∀ (as bs : List (String × Json)), beqMembers as bs = true → Indistinct beqMembers as bs
  | [], bs, h => by
    cases bs with
    | nil => exact .refl _ _
    | cons => cases h
  | (key, a) :: as, bs, h => by
    cases bs with
    | nil => cases h
    | cons entry bs =>
      obtain ⟨name, b⟩ := entry
      obtain ⟨hfirst, hothers⟩ := Bool.and_eq_true_iff.mp h
      obtain ⟨hkey, hvalue⟩ := Bool.and_eq_true_iff.mp hfirst
      obtain rfl := eq_of_beq hkey
      intro cs
      cases cs with
      | nil => exact ⟨rfl, rfl⟩
      | cons other cs =>
        obtain ⟨label, c⟩ := other
        have hitem := indistinct_of_beq a b hvalue c
        have hmore := indistinct_of_beqMembers as bs hothers cs
        simp only [beqMembers, hitem, hmore, and_self]

end

end Json

/-! ### Values -/

variable [Regex.Engine]

/-- Literals that are written alike are identical. -/
theorem Regex.eq_of_beq {a b : Regex} (h : (a == b) = true) : a = b := by
  obtain ⟨source, flags, compiled, hcompiles⟩ := a
  obtain ⟨source', flags', compiled', hcompiles'⟩ := b
  obtain ⟨hsource, hflags⟩ := Bool.and_eq_true_iff.mp h
  obtain rfl : source = source' := LawfulBEq.eq_of_beq hsource
  obtain rfl : flags = flags' := LawfulBEq.eq_of_beq hflags
  obtain rfl := Except.ok.inj (hcompiles.symm.trans hcompiles')
  rfl

namespace Value

/-- What equality says about the form of two values: they are identical, or of one kind with equal
parts. -/
inductive SameForm : Value → Value → Prop where
  /-- Identical values. -/
  | same (value : Value) : SameForm value value
  /-- Equal numbers. -/
  | num {x y : Float} (h : (x == y) = true) : SameForm (.num x) (.num y)
  /-- Lists with equal items. -/
  | list {as bs : List Value} (h : beqAll as bs = true) : SameForm (.list as) (.list bs)
  /-- Quotations of equal expressions. -/
  | quoted {a b : Value} (h : beq a b = true) : SameForm (.quoted a) (.quoted b)
  /-- Ranges with equal bounds and equal steps. -/
  | range {a b c d : Float} {s t : Option Float}
      (hlow : (Number.lesser a b == Number.lesser c d) = true)
      (hhigh : (Number.greater a b == Number.greater c d) = true) (hstep : sameStep s t = true) :
      SameForm (.range a b s) (.range c d t)
  /-- Equal documents. -/
  | json {a b : Json} (h : (a == b) = true) : SameForm (.json a) (.json b)
  /-- Closures of one scope with equal parameters and equal bodies. -/
  | closure {ps qs : List Value} {name name' : Option String} {b c : Value} {scope : ScopeId}
      (hparams : beqAll ps qs = true) (hbody : beq b c = true) :
      SameForm (.closure ps name b scope) (.closure qs name' c scope)

/-- Equal values have the same form. -/
theorem sameForm_of_beq {a b : Value} (h : beq a b = true) : SameForm a b := by
  cases a with
  | nil =>
    cases b with
    | nil => exact .same _
    | _ => cases h
  | bool x =>
    cases b with
    | bool y =>
      obtain rfl := eq_of_beq h
      exact .same _
    | _ => cases h
  | num x =>
    cases b with
    | num y => exact .num h
    | _ => cases h
  | str x =>
    cases b with
    | str y =>
      obtain rfl := eq_of_beq h
      exact .same _
    | _ => cases h
  | sym x =>
    cases b with
    | sym y =>
      obtain rfl := eq_of_beq h
      exact .same _
    | _ => cases h
  | list items =>
    cases b with
    | list others => exact .list h
    | _ => cases h
  | quoted inner =>
    cases b with
    | quoted other => exact .quoted h
    | _ => cases h
  | range start stop step =>
    cases b with
    | range start' stop' step' =>
      obtain ⟨hbounds, hstep⟩ := Bool.and_eq_true_iff.mp h
      obtain ⟨hlow, hhigh⟩ := Bool.and_eq_true_iff.mp hbounds
      exact .range hlow hhigh hstep
    | _ => cases h
  | regex x =>
    cases b with
    | regex y =>
      obtain rfl := Regex.eq_of_beq h
      exact .same _
    | _ => cases h
  | json x =>
    cases b with
    | json y => exact .json h
    | _ => cases h
  | pointer x =>
    cases b with
    | pointer y =>
      obtain rfl := eq_of_beq h
      exact .same _
    | _ => cases h
  | builtin x =>
    cases b with
    | builtin y =>
      obtain rfl := eq_of_beq h
      exact .same _
    | _ => cases h
  | closure params name body scope =>
    cases b with
    | closure params' name' body' scope' =>
      obtain ⟨hparts, hscope⟩ := Bool.and_eq_true_iff.mp h
      obtain ⟨hparams, hbody⟩ := Bool.and_eq_true_iff.mp hparts
      obtain rfl := eq_of_beq hscope
      exact .closure hparams hbody
    | _ => cases h

omit [Regex.Engine] in
/-- Equal steps are not told apart by equality. -/
theorem indistinct_of_sameStep {s t : Option Float} (h : sameStep s t = true) :
    Indistinct sameStep s t := by
  cases s with
  | none =>
    cases t with
    | none => exact .refl _ _
    | some => cases h
  | some x =>
    cases t with
    | none => cases h
    | some y =>
      intro u
      cases u with
      | none => exact ⟨rfl, rfl⟩
      | some z => exact Number.beq_congr h z

mutual

/-- Equal values are not told apart by equality. -/
theorem indistinct_of_beq (a b : Value) (h : beq a b = true) : Indistinct beq a b := by
  cases sameForm_of_beq h with
  | same => exact .refl _ _
  | num hnumbers =>
    intro c
    cases c with
    | num z => exact Number.beq_congr hnumbers z
    | _ => exact ⟨rfl, rfl⟩
  | @list items others hitems =>
    intro c
    cases c with
    | list more => exact indistinct_of_beqAll items others hitems more
    | _ => exact ⟨rfl, rfl⟩
  | @quoted inner other hinner =>
    intro c
    cases c with
    | quoted more => exact indistinct_of_beq inner other hinner more
    | _ => exact ⟨rfl, rfl⟩
  | range hlow hhigh hstep =>
    intro c
    cases c with
    | range start stop step =>
      have hlow := Number.beq_congr hlow (Number.lesser start stop)
      have hhigh := Number.beq_congr hhigh (Number.greater start stop)
      have hstep := indistinct_of_sameStep hstep step
      simp only [beq, hlow, hhigh, hstep, and_self]
    | _ => exact ⟨rfl, rfl⟩
  | json hdocuments =>
    intro c
    cases c with
    | json z => exact Json.indistinct_of_beq _ _ hdocuments z
    | _ => exact ⟨rfl, rfl⟩
  | @closure params params' _ _ body body' scope hparams hbody =>
    intro c
    cases c with
    | closure others name other scope' =>
      have hothers := indistinct_of_beqAll params params' hparams others
      have hother := indistinct_of_beq body body' hbody other
      simp only [beq, hothers, hother, and_self]
    | _ => exact ⟨rfl, rfl⟩

/-- Equal lists are not told apart by equality. -/
theorem indistinct_of_beqAll (as bs : List Value) (h : beqAll as bs = true) :
    Indistinct beqAll as bs := by
  cases as with
  | nil =>
    cases bs with
    | nil => exact .refl _ _
    | cons => cases h
  | cons a as =>
    cases bs with
    | nil => cases h
    | cons b bs =>
      obtain ⟨hfirst, hothers⟩ := Bool.and_eq_true_iff.mp h
      intro cs
      cases cs with
      | nil => exact ⟨rfl, rfl⟩
      | cons c cs =>
        have hitem := indistinct_of_beq a b hfirst c
        have hmore := indistinct_of_beqAll as bs hothers cs
        simp only [beqAll, hitem, hmore, and_self]

end

/-- Equality is symmetric and transitive. -/
instance : PartialEquivBEq Value where
  symm {a b} h := by
    have hindistinct := indistinct_of_beq a b h a
    exact (hindistinct.1.symm.trans hindistinct.2).trans h
  trans {a b c} h hnext := (indistinct_of_beq a b h c).1.trans hnext

/-- Lists are equal item by item. -/
theorem beqAll_iff {as bs : List Value} :
    beqAll as bs = true ↔ List.Forall₂ (fun a b => (a == b) = true) as bs := by
  induction as generalizing bs with
  | nil => cases bs <;> simp [beqAll]
  | cons a as ih =>
    cases bs with
    | nil => simp [beqAll]
    | cons b bs =>
      rw [List.forall₂_cons, ← ih]
      exact Bool.and_eq_true_iff

end Value

end ShapeLisp
