import ShapeLisp.Proofs.Eval.Outcome

/-!
# One step of an evaluation

An evaluation of an expression is made of evaluations of parts of the expression at the same level
and of work on lower levels. `Stage.unfold` is one step of it with the evaluation of parts left
open. The evaluator is the solution of this equation: making an expression ready and running it is
one step in which the parts are made ready and run in the same way.
-/

namespace ShapeLisp

variable [Regex.Engine]

/-- A part of an expression, at any depth, other than the expression itself. -/
inductive Value.Inside : Value → Value → Prop where
  /-- An item of a list. -/
  | item {part : Value} {items : List Value} : part ∈ items → Inside part (.list items)
  /-- What stands after a quotation mark. -/
  | inner (part : Value) : Inside part (.quoted part)
  /-- A part of a part. -/
  | trans {part middle whole : Value} : Inside part middle → Inside middle whole → Inside part whole

/-- Parts are smaller than the whole. -/
theorem Value.Inside.sizeOf_lt {part whole : Value} (h : part.Inside whole) :
    sizeOf part < sizeOf whole := by
  induction h with
  | item hmem =>
    have hitem := List.sizeOf_lt_of_mem hmem
    simp only [Value.list.sizeOf_spec]
    omega
  | inner part =>
    simp only [Value.quoted.sizeOf_spec]
    omega
  | trans _ _ first second => exact Nat.lt_trans first second

namespace Operand

mutual

/-- The operand of an expression whose parts are evaluated by a given function. -/
def ofExpr (self : Value → ScopeId → Run Value) : Value → Operand
  | .list items => .mk (.list items) (self (.list items)) (ofExprs self items)
  | value => .mk value (self value) []

/-- The operands of expressions. -/
def ofExprs (self : Value → ScopeId → Run Value) : List Value → List Operand
  | [] => []
  | value :: rest => ofExpr self value :: ofExprs self rest

end

variable (self : Value → ScopeId → Run Value)

/-- The expression of an operand is the one it was made of. -/
@[simp]
theorem expr_ofExpr (expr : Value) : (ofExpr self expr).expr = expr := by
  cases expr <;> simp only [ofExpr, Operand.expr]

/-- Running an operand evaluates its expression. -/
@[simp]
theorem run_ofExpr (expr : Value) : (ofExpr self expr).run = self expr := by
  cases expr <;> simp only [ofExpr, Operand.run]

/-- The parts of a list are its items. -/
@[simp]
theorem parts_ofExpr_list (items : List Value) :
    (ofExpr self (.list items)).parts = ofExprs self items := by
  simp only [ofExpr, parts]

/-- The operands of expressions are made one by one. -/
theorem ofExprs_eq_map (exprs : List Value) : ofExprs self exprs = exprs.map (ofExpr self) := by
  induction exprs with
  | nil => rw [ofExprs, List.map_nil]
  | cons expr rest ih => rw [ofExprs, List.map_cons, ih]

/-- There are as many operands as expressions. -/
@[simp]
theorem length_ofExprs (exprs : List Value) : (ofExprs self exprs).length = exprs.length := by
  rw [ofExprs_eq_map, List.length_map]

/-- Operands give back the expressions they were made of. -/
@[simp]
theorem exprs_ofExprs (values : List Value) : exprs (ofExprs self values) = values := by
  induction values with
  | nil => rfl
  | cons value rest ih =>
    simp only [exprs, ofExprs, List.map_cons, expr_ofExpr] at ih ⊢
    rw [ih]

end Operand

namespace Stage

/-- One step of an evaluation, with the evaluation of parts left open. -/
def unfold (stage : Stage) (self : Value → ScopeId → Run Value) (expr : Value)
    (scope : ScopeId) : Run Value :=
  match expr with
  | .list items =>
    Run.mapError (fun error => stage.interpreter.annotate error (.context (.list items)))
      (stage.runList (Operand.ofExprs self items) scope)
  | .quoted (.list items) => do
    let values ← Operand.runAll scope (Operand.ofExprs self items)
    return .list values
  | .quoted inner => pure inner
  | .sym name => stage.resolve name scope
  | value => pure value

/-- The evaluation of an expression at a stage. -/
def evaluate (stage : Stage) (expr : Value) (scope : ScopeId) : Run Value :=
  (stage.prepare expr).run scope

mutual

/-- An expression is made ready by making its parts ready. -/
theorem prepare_eq_ofExpr (stage : Stage) (expr : Value) :
    stage.prepare expr = Operand.ofExpr stage.evaluate expr := by
  cases expr with
  | list items =>
    have hparts := prepareAll_eq_ofExprs stage items
    have hrun : stage.evaluate (.list items) = (stage.prepare (.list items)).run := rfl
    rw [Operand.ofExpr, hrun, ← hparts]
    simp only [prepare, Operand.run]
  | quoted inner =>
    rw [Operand.ofExpr]
    · cases inner <;> simp only [prepare] <;> rfl
    · simp
  | _ =>
    rw [Operand.ofExpr]
    · simp only [prepare]
      rfl
    · simp

/-- Expressions are made ready one by one. -/
theorem prepareAll_eq_ofExprs (stage : Stage) (exprs : List Value) :
    stage.prepareAll exprs = Operand.ofExprs stage.evaluate exprs := by
  cases exprs with
  | nil => rw [prepareAll, Operand.ofExprs]
  | cons expr rest =>
    rw [prepareAll, Operand.ofExprs, prepare_eq_ofExpr stage expr,
      prepareAll_eq_ofExprs stage rest]

end

/-- The evaluator solves its own equation: an evaluation is one step, and the parts are evaluated
in the same way. -/
theorem evaluate_eq_unfold (stage : Stage) (expr : Value) (scope : ScopeId) :
    stage.evaluate expr scope = stage.unfold stage.evaluate expr scope := by
  have hparts := prepareAll_eq_ofExprs stage
  cases expr with
  | list items => simp only [evaluate, prepare, Operand.run, unfold, ← hparts]
  | quoted inner =>
    cases inner <;> simp only [evaluate, prepare, Operand.run, unfold, ← hparts]
  | _ => simp only [evaluate, prepare, Operand.run, unfold]

end Stage

namespace Interpreter

/-- A level with room left evaluates, follows and resolves at the stage above the next level. -/
theorem level_succ (interpreter : Interpreter) (left : Nat) :
    interpreter.level (left + 1) =
      { body := Stage.evaluate ⟨interpreter, interpreter.level left⟩
        follow := fun name target args scope => do
          Run.emit (.aliasFollowed name target)
          Stage.dispatch ⟨interpreter, interpreter.level left⟩ target args scope
        resolve := Stage.resolve ⟨interpreter, interpreter.level left⟩ } := rfl

/-- The stage at which expressions are evaluated at a depth below the limit. -/
abbrev stageAt (interpreter : Interpreter) (depth : Nat) : Stage :=
  ⟨interpreter, interpreter.level (maxEvalDepth - (depth + 1))⟩

/-- Below the limit an evaluation at a depth is one at the stage above the next level. -/
theorem evalAt_eq_evaluate (interpreter : Interpreter) {depth : Nat}
    (hdepth : depth < maxEvalDepth) :
    interpreter.evalAt depth =
      Stage.evaluate (interpreter.stageAt depth) := by
  have hleft : maxEvalDepth - depth = maxEvalDepth - (depth + 1) + 1 := by omega
  funext expr scope
  rw [evalAt, hleft, level_succ]

/-- At the limit and beyond nothing is evaluated. -/
theorem outcome_evalAt_of_le (interpreter : Interpreter) {depth : Nat}
    (hdepth : maxEvalDepth ≤ depth) (expr : Value) (scope : ScopeId) (world : World) :
    (interpreter.evalAt depth expr scope).outcome world = (.error (.of .depthExceeded), world) := by
  rw [evalAt, Nat.sub_eq_zero_of_le hdepth, level, Run.outcome_fail]

variable {interpreter : Interpreter} {depth : Nat} {word : String} {scope : ScopeId}

/-- A symbol is evaluated by resolving its name. -/
theorem evalAt_sym (hdepth : depth < maxEvalDepth) (name : String) :
    interpreter.evalAt depth (.sym name) scope =
      (interpreter.stageAt depth).resolve name scope := by
  rw [evalAt_eq_evaluate interpreter hdepth, Stage.evaluate_eq_unfold, Stage.unfold]

/-- A list is evaluated by running its items as operands, and a failure is noted with the list. -/
theorem evalAt_list (hdepth : depth < maxEvalDepth) (items : List Value) :
    interpreter.evalAt depth (.list items) scope =
      Run.mapError (fun error => interpreter.annotate error (.context (.list items)))
        ((interpreter.stageAt depth).runList
          (Operand.ofExprs (interpreter.evalAt depth) items) scope) := by
  rw [evalAt_eq_evaluate interpreter hdepth, Stage.evaluate_eq_unfold, Stage.unfold]

/-- A list that begins with the word for a form runs the form, if it has as many operands as the
form accepts. -/
theorem evalAt_form (hdepth : depth < maxEvalDepth) {form : Form}
    (hword : Form.ofName? word = some form) {operands : List Value}
    (harity : form.arity.check operands.length = .ok ()) :
    interpreter.evalAt depth (.list (.sym word :: operands)) scope =
      Run.mapError
        (fun error => interpreter.annotate error (.context (.list (.sym word :: operands))))
        (form.run (interpreter.stageAt depth)
          (Operand.ofExprs (interpreter.evalAt depth) operands) scope) := by
  rw [evalAt_list hdepth]
  simp only [Operand.ofExprs, Stage.runList, Operand.expr_ofExpr, hword, Operand.length_ofExprs,
    harity]
  rfl

/-- A list that begins with any other name calls the name. -/
theorem evalAt_call (hdepth : depth < maxEvalDepth) (hword : Form.ofName? word = none)
    (operands : List Value) :
    interpreter.evalAt depth (.list (.sym word :: operands)) scope =
      Run.mapError
        (fun error => interpreter.annotate error (.context (.list (.sym word :: operands))))
        ((interpreter.stageAt depth).call word
          (Operand.ofExprs (interpreter.evalAt depth) operands) scope) := by
  rw [evalAt_list hdepth]
  simp only [Operand.ofExprs, Stage.runList, Operand.expr_ofExpr, hword]

end Interpreter

/-- Applying a name that a called name stands for is a call of that name one level deeper. -/
theorem Stage.outcome_applyResolved_sym {interpreter : Interpreter} {left : Nat}
    {name target : String} {args : List Value} {scope : ScopeId} {world : World} :
    (Stage.applyResolved ⟨interpreter, interpreter.level (left + 1)⟩ name (.sym target) args
        scope).outcome world =
      (Stage.dispatch ⟨interpreter, interpreter.level left⟩ target args scope).outcome
        ⟨world.store, world.events.push (.aliasFollowed name target)⟩ := by
  change ((interpreter.level (left + 1)).follow name target args scope).outcome world = _
  rw [Interpreter.level_succ]
  exact Run.outcome_bind_ok (Run.outcome_emit ..)

end ShapeLisp
