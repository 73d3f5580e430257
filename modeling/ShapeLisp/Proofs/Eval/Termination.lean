import ShapeLisp.Proofs.Eval.LogicRules

/-!
# Every evaluation ends

An evaluator says what can be done at each depth. `Interpreter.unroll` is one round of evaluation
in which everything that has to be evaluated on the way is left to a given evaluator, without any
count of how often. The levels of an interpreter are the only evaluator that is left as it is by
one round, and rounds that start from any evaluator at all come to what they return after finitely
many rounds.

The reason is that one round leaves to the given evaluator only strict parts of the expression at
the same depth, and anything at the next depth, and nothing at all from the last depth on.
-/

namespace ShapeLisp

variable [Regex.Engine]

/-- A level is what it does. -/
theorem Level.eq_of_runs {first second : Level}
    (hbody : ∀ expr scope, first.body expr scope = second.body expr scope)
    (hfollow : ∀ name target args scope,
      first.follow name target args scope = second.follow name target args scope)
    (hresolve : ∀ name scope, first.resolve name scope = second.resolve name scope) :
    first = second := by
  cases first
  cases second
  congr 1
  · exact funext fun expr => funext (hbody expr)
  · exact funext fun name => funext fun target => funext fun args =>
      funext (hfollow name target args)
  · exact funext fun name => funext (hresolve name)

/-- What can be done at each depth. -/
abbrev Evaluator := Nat → Level

namespace Interpreter

/-- The evaluator of an interpreter. -/
def levelAt (interpreter : Interpreter) : Evaluator :=
  fun depth => interpreter.level (maxEvalDepth - depth)

/-- One round of evaluation at a depth. Evaluations on the way are left to the given evaluator. -/
def unroll (interpreter : Interpreter) (self : Evaluator) : Evaluator := fun depth =>
  if depth < maxEvalDepth then
    let stage : Stage := ⟨interpreter, self (depth + 1)⟩
    { body := stage.unfold (self depth).body
      follow := fun name target args scope => do
        Run.emit (.aliasFollowed name target)
        stage.dispatch target args scope
      resolve := stage.resolve }
  else
    { body := fun _ _ => Run.fail .depthExceeded
      follow := fun _ _ _ _ => Run.fail .depthExceeded
      resolve := fun _ _ => Run.fail .depthExceeded }

/-- So many rounds of evaluation before anything is left to the given evaluator. -/
def rounds (interpreter : Interpreter) (start : Evaluator) : Nat → Evaluator
  | 0 => start
  | count + 1 => interpreter.unroll (interpreter.rounds start count)

/-- The evaluator of an interpreter is left as it is by one round. -/
theorem unroll_levelAt (interpreter : Interpreter) :
    interpreter.unroll interpreter.levelAt = interpreter.levelAt := by
  funext depth
  unfold unroll levelAt
  split
  · next hdepth =>
    have hleft : maxEvalDepth - depth = maxEvalDepth - (depth + 1) + 1 := by omega
    have hbody : ∀ stage : Stage, stage.unfold stage.evaluate = stage.evaluate := fun stage =>
      funext fun expr => funext fun scope => (stage.evaluate_eq_unfold expr scope).symm
    rw [hleft, level_succ]
    dsimp only
    rw [hbody]
  · next hdepth =>
    have hleft : maxEvalDepth - depth = 0 := by omega
    rw [hleft]
    rfl

/-- Rounds leave an evaluator as it is when one round does. -/
theorem rounds_of_unroll_eq {interpreter : Interpreter} {start : Evaluator}
    (h : interpreter.unroll start = start) (count : Nat) :
    interpreter.rounds start count = start := by
  induction count with
  | zero => rfl
  | succ count ih => rw [rounds, ih, h]

end Interpreter

/-! ### Agreement of families of runs -/

section Agreement

variable {ι : Type}

/-- In every world all late runs of the family end as the run at the base does. How late they have
to be may depend on the world. -/
def Run.Settles (base : ι) (Late : Nat → ι → Prop) {α : Type} (run : ι → Run α) : Prop :=
  ∀ world, ∃ bound, ∀ i, Late bound i → (run i).outcome world = (run base).outcome world

variable {base : ι} {Late : Nat → ι → Prop} {α β : Type}

/-- Runs that are the same for every index. -/
theorem Run.settles_const (run : Run α) : Settles base Late fun _ => run :=
  fun _ => ⟨0, fun _ _ => rfl⟩

/-- Late runs that are the run at the base. -/
theorem Run.settles_of_eq {run : ι → Run α} (h : ∀ i, Late 0 i → run i = run base) :
    Settles base Late run :=
  fun _ => ⟨0, fun i hi => by rw [h i hi]⟩

/-- One run after another: late enough for the first and for what comes after it. -/
theorem Run.Settles.bind (hlate : ∀ m n, m ≤ n → ∀ i, Late n i → Late m i)
    {run : ι → Run α} {next : ι → α → Run β} {Mid : α → Prop} (hrun : Settles base Late run)
    (hmid : (run base).Returns Mid) (hnext : ∀ a, Mid a → Settles base Late fun i => next i a) :
    Settles base Late fun i => run i >>= next i := by
  intro world
  obtain ⟨first, hfirst⟩ := hrun world
  have hreturned := hmid world
  cases hbase : (run base).outcome world with
  | mk result after =>
    rw [hbase] at hfirst hreturned
    cases result with
    | error error =>
      refine ⟨first, fun i hi => ?_⟩
      rw [outcome_bind_error (hfirst i hi), outcome_bind_error hbase]
    | ok a =>
      obtain ⟨second, hsecond⟩ := hnext a (hreturned a rfl) after
      refine ⟨max first second, fun i hi => ?_⟩
      have hi₁ := hfirst i (hlate first _ (Nat.le_max_left ..) i hi)
      have hi₂ := hsecond i (hlate second _ (Nat.le_max_right ..) i hi)
      rw [outcome_bind_ok hi₁, outcome_bind_ok hbase, hi₂]

/-- Runs after a run that is the same for every index. -/
theorem Run.Settles.after (first : Run α) {next : ι → α → Run β}
    (hnext : ∀ a, Settles base Late fun i => next i a) :
    Settles base Late fun i => first >>= next i := by
  intro world
  cases hfirst : first.outcome world with
  | mk result after =>
    cases result with
    | error error =>
      refine ⟨0, fun i _ => ?_⟩
      rw [outcome_bind_error hfirst, outcome_bind_error hfirst]
    | ok a =>
      obtain ⟨bound, hbound⟩ := hnext a after
      refine ⟨bound, fun i hi => ?_⟩
      rw [outcome_bind_ok hfirst, outcome_bind_ok hfirst, hbound i hi]

/-- Changing errors keeps agreement. -/
theorem Run.Settles.mapError {run : ι → Run α} (change : Error → Error)
    (hrun : Settles base Late run) : Settles base Late fun i => Run.mapError change (run i) := by
  intro world
  obtain ⟨bound, hbound⟩ := hrun world
  refine ⟨bound, fun i hi => ?_⟩
  rw [outcome_mapError, outcome_mapError, hbound i hi]

/-- The logic of agreement with the run at the base. Nothing is asked of values. -/
def settlingLogic (interpreter : Interpreter) (base : ι) (Late : Nat → ι → Prop)
    (hlate : ∀ m n, m ≤ n → ∀ i, Late n i → Late m i) : RunLogic ι where
  interpreter _ := interpreter
  Good _ _ := True
  Holds n _ _ Post run := Run.Settles base Late run ∧ (run base).Returns (Post n)
  good_mono _ _ := trivial
  good_list := RunLogic.anything_list _
  good_quoted _ := trivial
  good_data _ := trivial
  returns h := ⟨Run.settles_const _, Run.returns_pure h⟩
  bind hrun hnext :=
    ⟨hrun.1.bind hlate hrun.2 fun a ha => (hnext _ (Nat.le_refl _) a ha).1,
      hrun.2.bind fun a ha => (hnext _ (Nat.le_refl _) a ha).2⟩
  fail _ := ⟨Run.settles_const _, Run.returns_throw _ _⟩
  malformed _ := ⟨Run.settles_const _, Run.returns_throw _ _⟩
  emit _ := ⟨Run.settles_const _, Run.returns_true _⟩
  lookup _ := ⟨Run.settles_const _, Run.returns_true _⟩
  dispatch _ _ := ⟨Run.settles_const _, Run.returns_true _⟩
  define _ _ := ⟨Run.settles_const _, Run.returns_true _⟩
  closure _ _ _ := ⟨Run.settles_const _, Run.returns_true _⟩
  builtin _ _ := ⟨fun _ => ⟨0, fun _ _ => rfl⟩, Run.returns_true _⟩
  call _ _ hrun := ⟨.after _ fun inner => .after _ fun _ =>
    (hrun _ (Nat.le_refl _) inner trivial).1.mapError _, Run.returns_true _⟩
  child hrun := ⟨.after _ fun inner => (hrun _ (Nat.le_refl _) inner).1,
    Run.Returns.bind_of_forall fun inner => (hrun _ (Nat.le_refl _) inner).2⟩
  context _ hrun := ⟨hrun.1.mapError _, hrun.2.mapError _⟩

end Agreement

/-! ### What one round leaves to the given evaluator -/

/-- The evaluations that an evaluation at a depth may lead to: strict parts at the same depth, and
anything at the next depth; none from the last depth on. -/
inductive Evaluator.Below : Nat → Value → Nat → Value → Prop where
  /-- A part of the expression. -/
  | part {depth : Nat} {part expr : Value} : depth < maxEvalDepth → part.Inside expr →
    Below depth part depth expr
  /-- The body of a function, wherever the function comes from. -/
  | deeper {depth : Nat} (other expr : Value) : depth < maxEvalDepth →
    Below (depth + 1) other depth expr

/-- The evaluations that an evaluation may lead to have fewer levels left, or as many and a smaller
expression. -/
theorem Evaluator.Below.lex {next depth : Nat} {other expr : Value}
    (h : Below next other depth expr) :
    Prod.Lex (· < ·) (· < ·) (maxEvalDepth - next, sizeOf other)
      (maxEvalDepth - depth, sizeOf expr) := by
  cases h with
  | part _ hinside => exact .right _ hinside.sizeOf_lt
  | deeper _ _ hdepth => exact .left _ _ (by omega)

/-- Two evaluators agree on everything that an evaluation may lead to. -/
structure Evaluator.AgreeBelow (first second : Evaluator) (depth : Nat) (expr : Value) : Prop where
  /-- They evaluate the same expressions alike. -/
  body : ∀ next other, Below next other depth expr →
    (first next).body other = (second next).body other
  /-- They follow names alike at the next depth. -/
  names : depth < maxEvalDepth → (first (depth + 1)).follow = (second (depth + 1)).follow ∧
    (first (depth + 1)).resolve = (second (depth + 1)).resolve

/-- Evaluators that agree below an expression are the same at the next depth. -/
theorem Evaluator.AgreeBelow.level_eq {first second : Evaluator} {depth : Nat} {expr : Value}
    (h : AgreeBelow first second depth expr) (hdepth : depth < maxEvalDepth) :
    first (depth + 1) = second (depth + 1) := by
  obtain ⟨hfollow, hresolve⟩ := h.names hdepth
  apply Level.eq_of_runs
  · intro other scope
    rw [h.body _ other (.deeper other expr hdepth)]
  · intro name target args scope
    rw [hfollow]
  · intro name scope
    rw [hresolve]

namespace Interpreter

/-- One round from the last depth on fails without evaluating anything. -/
theorem unroll_of_le {interpreter : Interpreter} {self : Evaluator} {depth : Nat}
    (h : maxEvalDepth ≤ depth) : interpreter.unroll self depth = interpreter.level 0 := by
  rw [unroll, if_neg (Nat.not_lt.mpr h)]
  rfl

/-- One round before the last depth is one step of an evaluation. -/
theorem unroll_of_lt {interpreter : Interpreter} {self : Evaluator} {depth : Nat}
    (h : depth < maxEvalDepth) :
    interpreter.unroll self depth =
      { body := Stage.unfold ⟨interpreter, self (depth + 1)⟩ (self depth).body
        follow := fun name target args scope => do
          Run.emit (.aliasFollowed name target)
          Stage.dispatch ⟨interpreter, self (depth + 1)⟩ target args scope
        resolve := Stage.resolve ⟨interpreter, self (depth + 1)⟩ } := by
  rw [unroll, if_pos h]

/-- One round evaluates an expression alike for evaluators that agree below it. -/
theorem unroll_body_congr {interpreter : Interpreter} {first second : Evaluator} {depth : Nat}
    {expr : Value} (h : first.AgreeBelow second depth expr) (scope : ScopeId) :
    (interpreter.unroll first depth).body expr scope =
      (interpreter.unroll second depth).body expr scope := by
  rcases Nat.lt_or_ge depth maxEvalDepth with hdepth | hdepth
  · -- the family of all evaluators; those that agree with the second are late at once
    let L := settlingLogic interpreter second (fun _ self => self.AgreeBelow second depth expr)
      fun _ _ _ _ => id
    have hlower : L.LevelHolds fun self => self (depth + 1) :=
      { body := fun _ => ⟨Run.settles_of_eq fun _ hself => by
          simp only [hself.level_eq hdepth], Run.returns_true _⟩
        follow := fun _ _ => ⟨Run.settles_of_eq fun _ hself => by
          simp only [hself.level_eq hdepth], Run.returns_true _⟩
        resolve := fun _ => ⟨Run.settles_of_eq fun _ hself => by
          simp only [hself.level_eq hdepth], Run.returns_true _⟩ }
    have hparts : ∀ part, part.Inside expr → ∀ m, 0 ≤ m → L.Good m part → ∀ inner,
        L.Holds m inner L.Good fun self => (self depth).body part inner :=
      fun part hinside _ _ _ _ => ⟨Run.settles_of_eq fun _ hself => by
        simp only [hself.body depth part (.part hdepth hinside)], Run.returns_true _⟩
    have hstep : L.Holds 0 scope L.Good fun self =>
        Stage.unfold ⟨interpreter, self (depth + 1)⟩ (self depth).body expr scope :=
      RunLogic.unfold_holds hlower trivial hparts
    rw [unroll_of_lt hdepth, unroll_of_lt hdepth]
    refine Run.ext_outcome fun world => ?_
    obtain ⟨bound, hbound⟩ := hstep.1 world
    exact hbound first h
  · rw [unroll_of_le hdepth, unroll_of_le hdepth]

/-! ### Rounds from any evaluator -/

/-- The evaluator of the interpreter, or so many rounds from some evaluator. -/
def approximation (interpreter : Interpreter) : Option (Nat × Evaluator) → Evaluator
  | none => interpreter.levelAt
  | some (count, start) => interpreter.rounds start count

/-- Being the evaluator of the interpreter, or at least so many rounds. -/
def IsLate (bound : Nat) : Option (Nat × Evaluator) → Prop
  | none => True
  | some (count, _) => bound ≤ count

/-- The logic of agreement, after enough rounds, with the evaluator of the interpreter. -/
def roundsLogic (interpreter : Interpreter) : RunLogic (Option (Nat × Evaluator)) :=
  settlingLogic interpreter none IsLate fun m n hmn i hi => by
    cases i with
    | none => trivial
    | some rounds => exact Nat.le_trans hmn hi

/-- Agreement after one more round. -/
theorem roundsLogic_next {interpreter : Interpreter} {n : Nat} {scope : ScopeId} {α : Type}
    {Post : Nat → α → Prop} (run : Evaluator → Run α)
    (h : (roundsLogic interpreter).Holds n scope Post fun i =>
      run (interpreter.unroll (interpreter.approximation i))) :
    (roundsLogic interpreter).Holds n scope Post fun i => run (interpreter.approximation i) := by
  have hbase : interpreter.unroll (interpreter.approximation none) =
      interpreter.approximation none := interpreter.unroll_levelAt
  refine ⟨fun world => ?_, by simpa only [hbase] using h.2⟩
  obtain ⟨bound, hbound⟩ := h.1 world
  refine ⟨bound + 1, fun i hi => ?_⟩
  match i, hi with
  | none, _ => rfl
  | some (count + 1, start), hi =>
    have hcount := hbound (some (count, start)) (Nat.le_of_succ_le_succ hi)
    simp only [hbase] at hcount
    exact hcount

/-- After enough rounds nothing is left to the evaluator at the start, at any depth. -/
theorem levelHolds_approximation (interpreter : Interpreter) (depth : Nat) :
    (roundsLogic interpreter).LevelHolds fun i => interpreter.approximation i depth := by
  -- the outer induction is on the levels left, the inner one on the size of the expression
  induction hleft : maxEvalDepth - depth generalizing depth with
  | zero =>
    have hdepth : maxEvalDepth ≤ depth := by omega
    have hround : ∀ i, interpreter.unroll (interpreter.approximation i) depth =
        interpreter.level 0 := fun i => unroll_of_le hdepth
    constructor
    · intro n expr scope hexpr
      apply roundsLogic_next fun self => (self depth).body expr scope
      simp only [hround]
      exact RunLogic.exhausted_holds.body hexpr
    · intro n name target args scope htarget hargs
      apply roundsLogic_next fun self => (self depth).follow name target args scope
      simp only [hround]
      exact RunLogic.exhausted_holds.follow htarget hargs
    · intro n name scope hname
      apply roundsLogic_next fun self => (self depth).resolve name scope
      simp only [hround]
      exact RunLogic.exhausted_holds.resolve hname
  | succ left ih =>
    have hdepth : depth < maxEvalDepth := by omega
    have hlower := ih (depth + 1) (by omega)
    constructor
    · intro n expr scope hexpr
      induction hsize : sizeOf expr using Nat.strongRecOn generalizing expr n scope with
      | ind size ihsize =>
        apply roundsLogic_next fun self => (self depth).body expr scope
        simp only [unroll_of_lt hdepth]
        refine RunLogic.unfold_holds hlower hexpr fun part hinside m _ hpart inner => ?_
        exact ihsize (sizeOf part) (hsize ▸ hinside.sizeOf_lt) hpart rfl
    · intro n name target args scope htarget hargs
      apply roundsLogic_next fun self => (self depth).follow name target args scope
      simp only [unroll_of_lt hdepth]
      exact (RunLogic.nextLevel_holds hlower).follow htarget hargs
    · intro n name scope hname
      apply roundsLogic_next fun self => (self depth).resolve name scope
      simp only [unroll_of_lt hdepth]
      exact (RunLogic.nextLevel_holds hlower).resolve hname

/-- What settles after enough rounds settles at once for an evaluator that rounds leave as it
is. -/
theorem run_eq_of_unroll_eq {interpreter : Interpreter} {evaluator : Evaluator} {n : Nat}
    {scope : ScopeId} {α : Type} {Post : Nat → α → Prop} (run : Evaluator → Run α)
    (h : interpreter.unroll evaluator = evaluator)
    (hrun : (roundsLogic interpreter).Holds n scope Post fun i =>
      run (interpreter.approximation i)) :
    run evaluator = run interpreter.levelAt := by
  refine Run.ext_outcome fun world => ?_
  obtain ⟨bound, hbound⟩ := hrun.1 world
  have hlate := hbound (some (bound, evaluator)) (Nat.le_refl bound)
  simp only [approximation, rounds_of_unroll_eq h] at hlate
  exact hlate

/-- Only the evaluator of the interpreter is left as it is by one round. -/
theorem eq_levelAt_of_unroll_eq {interpreter : Interpreter} {evaluator : Evaluator}
    (h : interpreter.unroll evaluator = evaluator) : evaluator = interpreter.levelAt := by
  funext depth
  have hlevel := interpreter.levelHolds_approximation depth
  apply Level.eq_of_runs
  · intro expr scope
    exact run_eq_of_unroll_eq (fun self => (self depth).body expr scope) h
      (hlevel.body (n := 0) trivial)
  · intro name target args scope
    exact run_eq_of_unroll_eq (fun self => (self depth).follow name target args scope) h
      (hlevel.follow (n := 0) trivial fun _ _ => trivial)
  · intro name scope
    exact run_eq_of_unroll_eq (fun self => (self depth).resolve name scope) h
      (hlevel.resolve (n := 0) trivial)

end Interpreter

/-- Every evaluation ends, with a value or an error.

Let evaluations on the way be left to some evaluator. Then one round of evaluation is the same for
two evaluators that agree on strict parts of the expression at the same depth and on everything at
the next depth, so it makes no other recursive calls; from the last depth on it fails at once and
makes none. These calls have fewer levels left, or as many and a smaller expression. Only one
evaluator is left as it is by a round, the evaluator of the interpreter. For every expression,
scope and world some number of rounds is enough for its outcome, whatever evaluator the rounds
start from, and more rounds change nothing. -/
theorem evaluation_ends (interpreter : Interpreter) :
    (∀ (first second : Evaluator) (depth : Nat) (expr : Value) (scope : ScopeId),
      first.AgreeBelow second depth expr →
        (interpreter.unroll first depth).body expr scope =
          (interpreter.unroll second depth).body expr scope) ∧
    (∀ (self : Evaluator) (depth : Nat) (expr : Value) (scope : ScopeId),
      maxEvalDepth ≤ depth →
        (interpreter.unroll self depth).body expr scope = Run.fail .depthExceeded) ∧
    (∀ (next depth : Nat) (other expr : Value), Evaluator.Below next other depth expr →
      Prod.Lex (· < ·) (· < ·) (maxEvalDepth - next, sizeOf other)
        (maxEvalDepth - depth, sizeOf expr)) ∧
    (∀ evaluator : Evaluator,
      interpreter.unroll evaluator = evaluator ↔ evaluator = interpreter.levelAt) ∧
    (∀ (depth : Nat) (expr : Value) (scope : ScopeId) (world : World), ∃ bound, ∀ count ≥ bound,
      ∀ start : Evaluator,
        ((interpreter.rounds start count depth).body expr scope).outcome world =
          (interpreter.evalAt depth expr scope).outcome world) := by
  refine ⟨fun _ _ _ _ scope h => Interpreter.unroll_body_congr h scope, ?_,
    fun _ _ _ _ h => h.lex, ?_, ?_⟩
  · intro self depth expr scope hdepth
    rw [Interpreter.unroll_of_le hdepth]
    rfl
  · intro evaluator
    constructor
    · exact Interpreter.eq_levelAt_of_unroll_eq
    · rintro rfl
      exact interpreter.unroll_levelAt
  · intro depth expr scope world
    have hsettled : (interpreter.roundsLogic).Holds 0 scope (interpreter.roundsLogic).Good
        fun i => (interpreter.approximation i depth).body expr scope :=
      (interpreter.levelHolds_approximation depth).body trivial
    obtain ⟨bound, hbound⟩ := hsettled.1 world
    exact ⟨bound, fun count hcount start => hbound (some (count, start)) hcount⟩

end ShapeLisp
