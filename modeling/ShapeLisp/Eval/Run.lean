import ShapeLisp.Host.Operation

/-!
# Running evaluations

An evaluation reads and changes a world: the store of scopes and the trail of events. It ends
with a value or with an error, and in both cases the world stays as it has become.
-/

namespace ShapeLisp

variable [Regex.Engine]

/-- What an evaluation works on. -/
structure World where
  /-- All scopes. -/
  store : Store
  /-- What has happened, in order. -/
  events : Array Event

/-- An evaluation: it changes the world and ends with a result or an error. -/
abbrev Run := ExceptT Error (StateM World)

namespace Run

/-- Fails for a cause. -/
def fail {α : Type} (cause : Cause) : Run α :=
  throw (.of cause)

/-- Notes an event. -/
def emit (event : Event) : Run Unit :=
  modify fun world => { world with events := world.events.push event }

/-- Notes events in order. -/
def emitAll : List Event → Run Unit
  | [] => pure ()
  | event :: rest => do
    emit event
    emitAll rest

/-- Goes on with a result or fails with an error. -/
def ofResult {α : Type} : Except Error α → Run α
  | .ok result => pure result
  | .error error => throw error

/-- Changes the error with which an evaluation fails. -/
def mapError {α : Type} (change : Error → Error) (run : Run α) : Run α :=
  ExceptT.mk do
    match ← run.run with
    | .ok result => return .ok result
    | .error error => return .error (change error)

/-- The latest binding of a name. -/
def lookup (scope : ScopeId) (name : String) : Run Binding := do
  ofResult ((← get).store.lookup scope name)

/-- The binding of a name that arguments choose. -/
def dispatch (scope : ScopeId) (name : String) (args : List Value) : Run Binding := do
  let (binding, how) ← ofResult ((← get).store.dispatch scope name args)
  emit (.dispatched name how)
  return binding

/-- Adds a scope inside a scope. -/
def newScope (outer : ScopeId) : Run ScopeId :=
  modifyGet fun world =>
    let (id, store) := world.store.addChild outer
    (id, { world with store := store })

/-- Binds a name in a scope without asking whether it is locked. -/
def bind (scope : ScopeId) (name : String) (value : Value) : Run Unit :=
  modify fun world => { world with store := world.store.bind scope name ⟨value, {}⟩ }

/-- Binds names one after the other. -/
def bindAll (scope : ScopeId) : List (String × Value) → Run Unit
  | [] => pure ()
  | (name, value) :: rest => do
    Run.bind scope name value
    bindAll scope rest

/-- Defines a name in a scope unless it is locked there. -/
def define (scope : ScopeId) (name : String) (value : Value) : Run Unit := do
  if (← get).store.isLocked scope name then fail (.locked name)
  else Run.bind scope name value

end Run

/-- What an evaluation depends on besides its expression and the world. -/
structure Interpreter where
  /-- The host functions that can be called. -/
  host : Host
  /-- How a note is added to an error on its way out. -/
  annotate : Error → Note → Error

/-- The interpreter with the functions of a host, which notes where evaluations fail. -/
def Interpreter.standard (host : Host) : Interpreter := ⟨host, Error.annotate⟩

/-- The interpreter that leaves errors as they are raised. -/
def Interpreter.silent (host : Host) : Interpreter := ⟨host, fun error _ => error⟩

/-- What an evaluation can do one level deeper. Levels are counted from the innermost one, where
nothing can be done any more. -/
structure Level where
  /-- Evaluates the body of a function. -/
  body : Value → ScopeId → Run Value
  /-- Calls another name in place of a called name. -/
  follow : (name target : String) → List Value → ScopeId → Run Value
  /-- The value of a name that stands for a name. -/
  resolve : String → ScopeId → Run Value

/-- Where an evaluation stands: the interpreter and the levels below. -/
structure Stage where
  /-- The interpreter. -/
  interpreter : Interpreter
  /-- What can be done one level deeper. -/
  lower : Level

end ShapeLisp
