import ShapeLisp.Eval.Evaluate
import ShapeLisp.Host.Standard
import ShapeLisp.Reader.Source

/-!
# Sessions

A session evaluates one expression after the other in scopes that it keeps. The scopes it gives
out are its environments, numbered from zero. A step that fails leaves the session as it has become
by then, and the session goes on.
-/

namespace ShapeLisp

variable [Regex.Engine]

/-- What a step of a session answers. -/
structure Answer where
  /-- The value or the error. -/
  result : Except Error Value
  /-- What happened, in order. -/
  events : List Event

namespace Answer

/-- The messages logged. -/
def log (answer : Answer) : List String :=
  answer.events.filterMap Event.message?

/-- The milliseconds that passed. -/
def waited (answer : Answer) : Nat :=
  answer.events.foldr (fun event total => event.millis + total) 0

/-- The lines of the trace. -/
def trace (answer : Answer) : List String :=
  answer.events.filterMap Event.trace?

/-- The lines printed. -/
def printed (answer : Answer) : List String :=
  answer.events.filterMap Event.line?

end Answer

/-- A session. -/
structure Session where
  /-- What evaluations depend on. -/
  interpreter : Interpreter
  /-- All scopes. -/
  store : Store
  /-- The scopes of the environments given out, in order. -/
  environments : Array ScopeId

namespace Session

/-- A session whose only environment has the standard functions and constants, and those of a
host. -/
def global (host : Host) : Session :=
  let (root, store) := Standard.globalStore
  ⟨.standard (Standard.host ++ host), host.register root store, #[root]⟩

/-- A session whose only environment has nothing but the functions of a host. -/
def bare (host : Host) : Session :=
  let (root, store) := Store.empty.addRoot
  ⟨.standard (Standard.host ++ host), host.register root store, #[root]⟩

/-- The scope of an environment. -/
def scope (session : Session) (environment : Nat) : ScopeId :=
  session.environments.getD environment 0

/-- Evaluates an expression in an environment. -/
def evaluate (session : Session) (environment : Nat) (expr : Value) : Answer × Session :=
  let scope := session.scope environment
  let (result, world) := (session.interpreter.eval expr scope).run.run ⟨session.store, #[]⟩
  (⟨result, world.events.toList⟩, { session with store := world.store })

/-- Makes an environment inside another and returns its number. -/
def child (session : Session) (environment : Nat) : Nat × Session :=
  let (id, store) := session.store.addChild (session.scope environment)
  (session.environments.size,
    { session with store := store, environments := session.environments.push id })

/-- The environment around an environment. -/
def parent? (session : Session) (environment : Nat) : Option Nat := do
  let scope ← session.store.parent? (session.scope environment)
  session.environments.findIdx? (· == scope)

/-- Defines a name in an environment. -/
def define (session : Session) (environment : Nat) (name : String) (value : Value)
    (options : BindingOptions) : Except Error Session := do
  let store ← session.store.define (session.scope environment) name ⟨value, options⟩
  return { session with store := store }

/-- The binding of a name that arguments choose, or the latest when none are given, with the
events of the choice. -/
def lookup (session : Session) (environment : Nat) (name : String) (args : Option (List Value)) :
    Except Error (Binding × List Event) :=
  let scope := session.scope environment
  match args with
  | some args => do
    let (binding, how) ← session.store.dispatch scope name args
    return (binding, [.dispatched name how])
  | none => do
    let binding ← session.store.lookup scope name
    return (binding, [])

/-- Every name visible in an environment with its latest value, in order. -/
def visible (session : Session) (environment : Nat) : Keyed Value :=
  session.store.visible (session.scope environment)

/-- A description of an environment: its own names, and whether it is inside another. -/
def describe (session : Session) (environment : Nat) : String :=
  let scope := session.scope environment
  let names := ", ".intercalate ((session.store.ownNames scope).map
    fun name => String.ofList (Text.Quoted.diagnostic name.toList))
  let isInner := (session.store.parent? scope).isSome
  s!"Environment \x7b names: [{names}], has_parent: {isInner} \x7d"

/-- Reads a source text and evaluates it in an environment. -/
def evaluateText (session : Session) (environment : Nat) (source : String) : Answer × Session :=
  match Reader.read source with
  | .ok expr => session.evaluate environment expr
  | .error error => (⟨.error (.parse error), []⟩, session)

end Session

end ShapeLisp
