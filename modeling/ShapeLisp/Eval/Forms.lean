import ShapeLisp.Eval.Call

/-!
# Special forms

A special form receives its operands unevaluated and decides itself which of them are evaluated,
and where. An operand is an expression together with what its evaluation does, and with its parts
prepared in the same way when it is a list. Operands are always evaluated from left to right.
-/

namespace ShapeLisp

variable [Regex.Engine]

/-- An expression ready to be evaluated. -/
inductive Operand where
  /-- The expression as written, its evaluation in a scope, and the operands it is a list of. -/
  | mk (expr : Value) (run : ScopeId → Run Value) (parts : List Operand)

namespace Operand

/-- The expression as written. -/
def expr : Operand → Value
  | .mk expr _ _ => expr

/-- Evaluates the operand in a scope. -/
def run : Operand → ScopeId → Run Value
  | .mk _ run _ => run

/-- The operands that a list consists of; none for other expressions. -/
def parts : Operand → List Operand
  | .mk _ _ parts => parts

/-- The expressions of operands. -/
def exprs (operands : List Operand) : List Value :=
  operands.map expr

/-- Evaluates operands in order and returns all values. -/
def runAll (scope : ScopeId) : List Operand → Run (List Value)
  | [] => pure []
  | operand :: rest => do
    let value ← operand.run scope
    let values ← runAll scope rest
    return value :: values

/-- Evaluates operands in order and returns the last value, or the given one when there is none. -/
def runLast (scope : ScopeId) (last : Value) : List Operand → Run Value
  | [] => pure last
  | operand :: rest => do
    let value ← operand.run scope
    runLast scope value rest

/-- Evaluates operands in order and returns the last value, nil when there is none. -/
def runSequence (scope : ScopeId) (operands : List Operand) : Run Value :=
  runLast scope .nil operands

end Operand

/-- The special forms. -/
inductive Form where
  /-- `def`, `define`: binds a name. -/
  | define
  /-- `fn`, `lambda`: makes a function. -/
  | lambda
  /-- `apply`: calls a function with a list of arguments. -/
  | apply
  /-- `if`: chooses by a condition. -/
  | choose
  /-- `begin`: evaluates in order. -/
  | sequence
  /-- `let`: binds names in a new scope. -/
  | bindLocal
  /-- `cons`: puts a value in front of a list. -/
  | cons
  /-- `car`: the first item of a list. -/
  | firstItem
  /-- `cdr`: a list without its first item. -/
  | otherItems
  /-- `list`: the list of its arguments. -/
  | list
  /-- `null?`: whether a value is nil or the empty list. -/
  | isNull
  /-- `=`: equality, containment or match. -/
  | equals
  /-- `~`: structural match. -/
  | matchShape
  /-- `..`: makes a range. -/
  | range
  deriving DecidableEq

namespace Form

/-- The form that a name in operator position stands for. -/
def ofName? (name : String) : Option Form :=
  match name with
  | "def" => some .define
  | "define" => some .define
  | "fn" => some .lambda
  | "lambda" => some .lambda
  | "apply" => some .apply
  | "if" => some .choose
  | "begin" => some .sequence
  | "let" => some .bindLocal
  | "cons" => some .cons
  | "car" => some .firstItem
  | "cdr" => some .otherItems
  | "list" => some .list
  | "null?" => some .isNull
  | "=" => some .equals
  | "~" => some .matchShape
  | ".." => some .range
  | _ => none

/-- How many operands a form accepts. Functions and applications report wrong shapes themselves. -/
def arity : Form → Arity
  | .define => .atLeast 2
  | .lambda => .any
  | .apply => .any
  | .choose => .between 2 3
  | .sequence => .any
  | .bindLocal => .atLeast 1
  | .cons => .exact 2
  | .firstItem => .exact 1
  | .otherItems => .exact 1
  | .list => .any
  | .isNull => .exact 1
  | .equals => .exact 2
  | .matchShape => .exact 2
  | .range => .between 2 3

/-- The body of a function with several forms evaluates them in order. -/
def bodyOf : List Value → Value
  | [form] => form
  | forms => .list (.sym "begin" :: forms)

/-- A function made in a scope. -/
def makeClosure (formals body : List Value) (scope : ScopeId) : Except Cause Value :=
  match Shape.restName formals with
  | .ok rest => .ok (.closure formals rest (bodyOf body) scope)
  | .error cause => .error cause

/-- Makes a function and binds it to a name. -/
def defineFunction (name : String) (formals : List Value) (body : List Operand)
    (scope : ScopeId) : Run Value := do
  match makeClosure formals (Operand.exprs body) scope with
  | .ok function => Run.define scope name function
  | .error cause => Run.fail cause
  return .nil

/-- A single parameter needs no list around it. -/
def parameters : Value → List Value
  | .list formals => formals
  | single => [single]

/-- `(def name value)`, `(def (name parameters ...) body ...)` or
`(def name parameters body ...)`. -/
def runDefine (operands : List Operand) (scope : ScopeId) : Run Value :=
  match operands with
  | [] => throw (arity .define |>.error 0)
  | target :: operands =>
    match target.expr, operands with
    | .sym name, [value] => do
      let value ← value.run scope
      Run.define scope name value
      return .nil
    | .list (.sym name :: formals), body => defineFunction name formals body scope
    | .list signature, _ => Run.fail (.unnamedDefinition (.list signature))
    | .sym name, formals :: body => defineFunction name (parameters formals.expr) body scope
    | other, _ => Run.fail (.expected "symbol" other)

/-- `(fn (parameters ...) body ...)`. -/
def runLambda (operands : List Operand) (scope : ScopeId) : Run Value :=
  match operands with
  | [] => throw (.lambda .lambdaNeedsBody)
  | formals :: body =>
    match formals.expr with
    | .list formals =>
      if body.isEmpty then throw (.lambda .lambdaNeedsBody)
      else
        match makeClosure formals (Operand.exprs body) scope with
        | .ok function => pure function
        | .error cause => throw (.lambda cause)
    | other => throw (.lambda (.lambdaParameters other))

/-- The items that the last argument of an application adds. -/
def spread : Value → Run (List Value)
  | .list items => pure items
  | .nil => pure []
  | other => Run.fail (.applyNeedsList other)

/-- `(apply function argument ... list)`. -/
def runApply (stage : Stage) (operands : List Operand) (scope : ScopeId) : Run Value :=
  match operands with
  | callee :: operand :: more => do
    let arguments := operand :: more
    let leading ← Operand.runAll scope arguments.dropLast
    let last ← (arguments.getLast (by simp [arguments])).run scope
    let args := leading ++ (← spread last)
    match callee.expr with
    | .sym name =>
      if (ofName? name).isSome then Run.fail (.applyToForm name)
      else stage.dispatch name args scope
    | _ =>
      let function ← callee.run scope
      if function.isCallable then stage.applyCallable function args scope
      else Run.fail (.applyToData function)
  | _ => Run.fail .applyNeedsArguments

/-- `(if condition consequent alternative)`; without an alternative it is nil. -/
def runChoose (operands : List Operand) (scope : ScopeId) : Run Value :=
  match operands with
  | condition :: consequent :: alternative => do
    let value ← condition.run scope
    if value.isTruthy then consequent.run scope
    else
      match alternative with
      | [] => return .nil
      | operand :: _ => operand.run scope
  | _ => throw (arity .choose |>.error operands.length)

/-- Evaluates bindings in order in the scope they are made in, so that each sees those before. -/
def runBindings (scope : ScopeId) : List Operand → Run Unit
  | [] => pure ()
  | binding :: rest => do
    match binding.parts with
    | [name, value] =>
      match name.expr with
      | .sym name =>
        let value ← value.run scope
        Run.define scope name value
      | _ => Run.fail (.malformedBinding binding.expr)
    | _ => Run.fail (.malformedBinding binding.expr)
    runBindings scope rest

/-- `(let ((name value) ...) body ...)`. -/
def runBindLocal (operands : List Operand) (scope : ScopeId) : Run Value :=
  match operands with
  | [] => Run.fail .letNeedsBindings
  | bindings :: body =>
    match bindings.expr with
    | .list _ => do
      let inner ← Run.newScope scope
      runBindings inner bindings.parts
      Operand.runSequence inner body
    | _ => Run.fail .letNeedsBindings

/-- A value in front of a list; nil counts as the empty list, and another value makes a pair. -/
def consValue (head : Value) : Value → Value
  | .list items => .list (head :: items)
  | .nil => .list [head]
  | other => .list [head, other]

/-- `(cons head tail)`. -/
def runCons (operands : List Operand) (scope : ScopeId) : Run Value := do
  match ← Operand.runAll scope operands with
  | [head, tail] => return consValue head tail
  | _ => throw (arity .cons |>.error operands.length)

/-- Evaluates the only operand, which must be a list with items: its first item and the others. -/
def runNonEmpty (name : String) (operands : List Operand) (scope : ScopeId) :
    Run (Value × List Value) :=
  match operands with
  | [operand] => do
    match ← operand.run scope with
    | .list (head :: tail) => return (head, tail)
    | other => Run.fail (.emptyList name other)
  | _ => throw ((Arity.exact 1).error operands.length)

/-- `(null? value)`. -/
def runIsNull (operands : List Operand) (scope : ScopeId) : Run Value :=
  match operands with
  | [operand] => do
    let value ← operand.run scope
    return .bool value.isNil
  | _ => throw (arity .isNull |>.error operands.length)

/-- What `=` says of two values: a range contains, a regular expression matches, a pointer leads
into, and other values equal. -/
def equalValues (left right : Value) : Bool :=
  match left with
  | .range .. => Shape.rangeContains left right
  | .regex literal => right.text?.any literal.isMatch
  | .pointer path => Value.pointerMatches path right
  | _ => left == right

/-- `(= left right)`. -/
def runEquals (operands : List Operand) (scope : ScopeId) : Run Value :=
  match operands with
  | [left, right] => do
    let left ← left.run scope
    let right ← right.run scope
    return .bool (equalValues left right)
  | _ => throw (arity .equals |>.error operands.length)

/-- `(~ shapes arguments)`: both lists are taken as they are written, with or without a quote. -/
def runMatch (operands : List Operand) : Run Value :=
  match operands with
  | [formals, actuals] =>
    match formals.expr.unquoted, actuals.expr.unquoted with
    | .list formals, .list actuals =>
      pure (.bool (Shape.matchParams formals actuals).isSome)
    | _, _ => Run.fail .matchNeedsLists
  | _ => throw (arity .matchShape |>.error operands.length)

/-- `(.. start end step)`; the step may be missing. -/
def runRange (operands : List Operand) (scope : ScopeId) : Run Value := do
  match ← Operand.runAll scope operands with
  | [.num start, .num stop] => return .range start stop none
  | [.num start, .num stop, .num step] => return .range start stop (some step)
  | [_, _] => Run.fail .rangeNeedsNumbers
  | [_, _, _] => Run.fail .rangeNeedsNumbers
  | _ => throw (arity .range |>.error operands.length)

/-- Evaluates a form with its operands, of which there are as many as it accepts. -/
def run (stage : Stage) (form : Form) (operands : List Operand) (scope : ScopeId) : Run Value :=
  match form with
  | .define => runDefine operands scope
  | .lambda => runLambda operands scope
  | .apply => runApply stage operands scope
  | .choose => runChoose operands scope
  | .sequence => Operand.runSequence scope operands
  | .bindLocal => runBindLocal operands scope
  | .cons => runCons operands scope
  | .firstItem => do
    let (head, _) ← runNonEmpty "car" operands scope
    return head
  | .otherItems => do
    let (_, tail) ← runNonEmpty "cdr" operands scope
    return .list tail
  | .list => do
    let values ← Operand.runAll scope operands
    return .list values
  | .isNull => runIsNull operands scope
  | .equals => runEquals operands scope
  | .matchShape => runMatch operands
  | .range => runRange operands scope

end Form

end ShapeLisp
