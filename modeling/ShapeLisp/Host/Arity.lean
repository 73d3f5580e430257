import ShapeLisp.Error

/-!
# Numbers of arguments

How many arguments a form or a builtin accepts.
-/

namespace ShapeLisp

/-- Accepted numbers of arguments. -/
inductive Arity where
  /-- Exactly so many. -/
  | exact (count : Nat)
  /-- So many or more. -/
  | atLeast (least : Nat)
  /-- From one number to another, both included. -/
  | between (least most : Nat)
  /-- Any number. -/
  | any
  deriving DecidableEq

namespace Arity

/-- Whether a number of arguments is accepted. -/
def accepts : Arity → Nat → Bool
  | .exact count, got => got = count
  | .atLeast least, got => least ≤ got
  | .between least most, got => least ≤ got && got ≤ most
  | .any, _ => true

/-- Exactly `count` arguments. -/
@[simp] theorem accepts_exact {count got : Nat} :
    (exact count).accepts got = true ↔ got = count :=
  decide_eq_true_iff

/-- `least` arguments or more. -/
@[simp] theorem accepts_atLeast {least got : Nat} :
    (atLeast least).accepts got = true ↔ least ≤ got :=
  decide_eq_true_iff

/-- No fewer than `least` arguments and no more than `most`. -/
@[simp] theorem accepts_between {least most got : Nat} :
    (between least most).accepts got = true ↔ least ≤ got ∧ got ≤ most := by
  rw [accepts, Bool.and_eq_true, decide_eq_true_iff, decide_eq_true_iff]

/-- Any number of arguments. -/
@[simp] theorem accepts_any {got : Nat} : any.accepts got = true ↔ True :=
  iff_of_true rfl trivial

/-- The accepted numbers in words. -/
def text : Arity → String
  | .exact count => s!"{count}"
  | .atLeast least => s!"at least {least}"
  | .between least most =>
    if most = least + 1 then s!"{least} or {most}" else s!"{least} to {most}"
  | .any => "any number of"

variable [Regex.Engine]

/-- The error of a wrong number of arguments. -/
def error (arity : Arity) (got : Nat) : Error :=
  .of (.arity arity.text got)

/-- Refuses a wrong number of arguments. -/
def check (arity : Arity) (got : Nat) : Except Error Unit :=
  if arity.accepts got then .ok () else .error (arity.error got)

/-- An accepted number of arguments passes. -/
theorem check_eq_ok (arity : Arity) {got : Nat} (h : arity.accepts got = true) :
    arity.check got = .ok () :=
  if_pos h

/-- A number of arguments that is not accepted is refused. -/
theorem check_eq_error (arity : Arity) {got : Nat} (h : ¬ arity.accepts got = true) :
    arity.check got = .error (arity.error got) :=
  if_neg h

end Arity

end ShapeLisp
