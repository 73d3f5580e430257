import ShapeLisp.Eval.Forms

/-!
# Evaluation

Numbers, strings and other data evaluate to themselves and symbols to what they are bound to. A
quoted list evaluates its items, other quoted expressions lose their quote. A list is a call or a
form when its head can be called, and else a sequence.

Evaluation is a recursion in two directions. Within a level it goes to the parts of the
expression: `prepare` makes an expression ready part by part. Calls of closures and steps from
name to name go one level deeper, and there are only so many levels, so every evaluation ends.
-/

namespace ShapeLisp

variable [Regex.Engine]

namespace Stage

/-- Calls a name with operands. A binding that wants them unevaluated gets the expressions. -/
def call (stage : Stage) (name : String) (operands : List Operand) (scope : ScopeId) :
    Run Value := do
  let binding ← Run.lookup scope name
  if binding.options.skipArgs then
    Run.emit (.calledUnevaluated name)
    stage.applyResolved name binding.value (Operand.exprs operands) scope
  else
    let args ← Operand.runAll scope operands
    stage.dispatch name args scope

/-- Applies a value that was computed in operator position. What cannot be applied is the result
when nothing follows it, and else the rest is a sequence. -/
def applyComputed (stage : Stage) (head : Value) (operands : List Operand) (scope : ScopeId) :
    Run Value := do
  if head.isCallable then
    let args ← Operand.runAll scope operands
    stage.applyCallable head args scope
  else if head.isOperator then
    let args ← Operand.runAll scope operands
    stage.applyOperator head args scope
  else if operands.isEmpty then return head
  else Operand.runSequence scope operands

/-- Evaluates a list of operands. -/
def runList (stage : Stage) (operands : List Operand) (scope : ScopeId) : Run Value :=
  match operands with
  | [] => pure .nil
  | operator :: operands =>
    match operator.expr with
    | .sym name =>
      match Form.ofName? name with
      | some form => do
        Run.ofResult (form.arity.check operands.length)
        form.run stage operands scope
      | none => stage.call name operands scope
    | .list _ => do
      let head ← operator.run scope
      stage.applyComputed head operands scope
    | value =>
      if value.isCallable || value.isOperator then stage.applyComputed value operands scope
      else Operand.runSequence scope (operator :: operands)

mutual

/-- Makes an expression ready to be evaluated. -/
def prepare (stage : Stage) : Value → Operand
  | .list items =>
    let parts := prepareAll stage items
    .mk (.list items)
      (fun scope =>
        Run.mapError (fun error => stage.interpreter.annotate error (.context (.list items)))
          (stage.runList parts scope))
      parts
  | .quoted (.list items) =>
    let parts := prepareAll stage items
    .mk (.quoted (.list items))
      (fun scope => do
        let values ← Operand.runAll scope parts
        return .list values)
      []
  | .quoted inner => .mk (.quoted inner) (fun _ => pure inner) []
  | .sym name => .mk (.sym name) (fun scope => stage.resolve name scope) []
  | value => .mk value (fun _ => pure value) []

/-- Makes expressions ready to be evaluated. -/
def prepareAll (stage : Stage) : List Value → List Operand
  | [] => []
  | value :: rest => prepare stage value :: prepareAll stage rest

end

end Stage

/-- What can be done with so many levels left. -/
def Interpreter.level (interpreter : Interpreter) : (left : Nat) → Level
  | 0 =>
    { body := fun _ _ => Run.fail .depthExceeded
      follow := fun _ _ _ _ => Run.fail .depthExceeded
      resolve := fun _ _ => Run.fail .depthExceeded }
  | left + 1 =>
    let stage : Stage := ⟨interpreter, interpreter.level left⟩
    { body := fun expr scope => (stage.prepare expr).run scope
      follow := fun name target args scope => do
        Run.emit (.aliasFollowed name target)
        stage.dispatch target args scope
      resolve := fun name scope => stage.resolve name scope }

/-- Evaluates an expression at a depth, zero being the outermost. -/
def Interpreter.evalAt (interpreter : Interpreter) (depth : Nat) (expr : Value)
    (scope : ScopeId) : Run Value :=
  (interpreter.level (maxEvalDepth - depth)).body expr scope

/-- Evaluates an expression in a scope. -/
def Interpreter.eval (interpreter : Interpreter) (expr : Value) (scope : ScopeId) : Run Value :=
  interpreter.evalAt 0 expr scope

end ShapeLisp
