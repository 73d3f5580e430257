import ShapeLisp.Eval.Run
import ShapeLisp.Eval.Operators

/-!
# Calls

A call of a name chooses one of its bindings by the shapes of the arguments and applies it:
builtins and closures are called, operator values are applied, a name that stands for another is
followed one level deeper, and plain data is the result as it is.

The body of a closure runs in a new scope inside the scope it was made in, one level deeper.
-/

namespace ShapeLisp

variable [Regex.Engine]

/-- Lists among the arguments are spread into the arguments, one level deep. -/
def flatten (args : List Value) : List Value :=
  args.flatMap fun
    | .list items => items
    | value => [value]

/-- The bindings of a matching call: the spread arguments are tried before the arguments as they
are. -/
def matchedBindings? (params args : List Value) : Option Shape.Bindings :=
  (Shape.matchParams params (flatten args)).or (Shape.matchParams params args)

/-- The bindings of symbols by position, nil where an argument is missing; other shapes bind
nothing. -/
def positionalFixed : List Value → List Value → List (String × Value)
  | [], _ => []
  | .sym name :: params, args => (name, args.head?.getD .nil) :: positionalFixed params args.tail
  | _ :: params, args => positionalFixed params args.tail

/-- The bindings of a call whose arguments do not match: symbols before the rest marker by
position, and the rest parameter to whatever is left. -/
def positionalBindings (params : List Value) (rest : Option String) (args : List Value) :
    List (String × Value) :=
  let fixed := (Shape.splitRest params).1
  positionalFixed fixed args ++
    match rest with
    | some name => [(name, .list (args.drop fixed.length))]
    | none => []

/-- Binds the arguments of a call in its scope. -/
def bindArguments (scope : ScopeId) (params : List Value) (rest : Option String)
    (args : List Value) : Run Unit :=
  match matchedBindings? params args with
  | some bindings => Run.bindAll scope bindings
  | none => do
    Run.emit (.boundByPosition params.length args.length)
    Run.bindAll scope (positionalBindings params rest args)

namespace Stage

/-- Calls a builtin or a closure. -/
def applyCallable (stage : Stage) (callee : Value) (args : List Value) (scope : ScopeId) :
    Run Value :=
  match callee with
  | .builtin id => do
    Run.emit (.builtinCalled id args.length)
    match stage.interpreter.host.operation? id with
    | some operation =>
      let store := (← get).store
      let reply := operation (fun name => (store.lookup scope name).map Binding.value) args
      Run.emitAll reply.events
      Run.ofResult reply.result
    | none => throw (.undefinedSymbol id)
  | .closure params rest body outer => do
    let inner ← Run.newScope outer
    bindArguments inner params rest args
    Run.mapError (fun error => stage.interpreter.annotate error (.inFunction body))
      (stage.lower.body body inner)
  | other => Run.fail (.notCallable other)

/-- Calls a function on the numbers of a progression from an index on; the results so far are in
reverse order. -/
def applyEach (call : Value → Run Value) (numbers : Operators.Progression) :
    (count index : Nat) → List Value → Run Value
  | 0, _, results => pure (.list results.reverse)
  | count + 1, index, results => do
    let result ← call (.num (numbers.item index))
    applyEach call numbers count (index + 1) (result :: results)

/-- Calls a function on every number of a range. -/
def applyRange (stage : Stage) (start stop : Float) (step : Option Float) (args : List Value)
    (scope : ScopeId) : Run Value :=
  match args with
  | [] => Run.fail .rangeNeedsFunction
  | callee :: _ =>
    if callee.isCallable then
      match Operators.Progression.ofRange start stop step with
      | .error cause => Run.fail cause
      | .ok numbers =>
        applyEach (fun x => stage.applyCallable callee [x] scope) numbers numbers.count 0 []
    else Run.fail (.expected "function" callee)

/-- Applies an operator value. -/
def applyOperator (stage : Stage) (operator : Value) (args : List Value) (scope : ScopeId) :
    Run Value :=
  match operator with
  | .range start stop step => stage.applyRange start stop step args scope
  | .regex literal => pure (Operators.applyRegex literal args)
  | .json document => do
    let (value, events) := Operators.applyJson document args
    Run.emitAll events
    return value
  | .pointer path => pure (Operators.applyPointer path args)
  | other => Run.fail (.notOperator other)

/-- Applies the value that a called name is bound to. -/
def applyResolved (stage : Stage) (name : String) (value : Value) (args : List Value)
    (scope : ScopeId) : Run Value :=
  match value with
  | .sym target => stage.lower.follow name target args scope
  | value =>
    if value.isCallable then stage.applyCallable value args scope
    else if value.isOperator then stage.applyOperator value args scope
    else pure value

/-- Calls a name with evaluated arguments. -/
def dispatch (stage : Stage) (name : String) (args : List Value) (scope : ScopeId) :
    Run Value := do
  let binding ← Run.dispatch scope name (flatten args)
  stage.applyResolved name binding.value args scope

/-- The value of a name. A name that stands for a name is resolved one level deeper. -/
def resolve (stage : Stage) (name : String) (scope : ScopeId) : Run Value := do
  let binding ← Run.lookup scope name
  match binding.value with
  | .sym target => stage.lower.resolve target scope
  | value => return value

end Stage

end ShapeLisp
