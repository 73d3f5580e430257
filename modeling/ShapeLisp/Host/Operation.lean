import ShapeLisp.Eval.Event
import ShapeLisp.Host.Arity

/-!
# Host functions

The evaluator is open to functions of its host. A host function receives the values of its
arguments, and it may look names up in the scope of the call; it replies with a value or an error
and with the events that happened. It does not change any scope.

Most host functions have typed parameters. A signature lists the kinds of the parameters; the
arguments are converted before the function is called, and a function is never called with
arguments that do not fit.
-/

namespace ShapeLisp

variable [Regex.Engine]

/-- What a host function answers. -/
structure Reply where
  /-- What happened, in order. -/
  events : List Event
  /-- The value or the error. -/
  result : Except Error Value

namespace Reply

/-- A value and nothing else. -/
def value (value : Value) : Reply := ⟨[], .ok value⟩

/-- An error and nothing else. -/
def fail (error : Error) : Reply := ⟨[], .error error⟩

/-- A result and nothing else. -/
def ofResult (result : Except Error Value) : Reply := ⟨[], result⟩

end Reply

/-- A host function: given how to look names up and the arguments, what it answers. -/
abbrev Operation := (String → Except Error Value) → List Value → Reply

/-- The kinds of items in a run of arguments. -/
inductive ItemKind where
  /-- Any value. -/
  | any
  /-- Numbers. -/
  | number
  /-- Strings. -/
  | string
  deriving DecidableEq

namespace ItemKind

/-- What an item is converted to. -/
abbrev Carrier : ItemKind → Type
  | .any => Value
  | .number => Float
  | .string => String

/-- Refuses a run with an item that is not accepted; the leftmost is the error. -/
def checkEach (expected : String) (accepts : Value → Bool) (run : List Value) :
    Except Error Unit :=
  match run.find? fun value => !accepts value with
  | some rejected => .error (.of (.expected expected rejected))
  | none => .ok ()

/-- Checks a whole run of items before a function sees any of it. -/
def check : ItemKind → List Value → Except Error Unit
  | .any, _ => .ok ()
  | .number, run => checkEach "number" (fun value => value matches .num _) run
  | .string, run => checkEach "string" (fun value => value matches .str _) run

/-- An item as a function sees it. The values for items that do not fit stand for nothing: the run
was checked before. -/
def view : (kind : ItemKind) → Value → kind.Carrier
  | .any, value => value
  | .number, .num x => x
  | .number, _ => 0.0 / 0.0
  | .string, value => value.text?.getD ""

/-- Converts a run of items: it is checked as a whole and then viewed item by item. -/
def convertAll (kind : ItemKind) (run : List Value) : Except Error (List kind.Carrier) :=
  match kind.check run with
  | .error error => .error error
  | .ok () => .ok (run.map kind.view)

end ItemKind

/-- The kinds of parameters. -/
inductive ParamKind where
  /-- A number. -/
  | number
  /-- A truth value. -/
  | boolean
  /-- A string. -/
  | string
  /-- Any value. -/
  | value
  /-- A list of items of one kind. -/
  | items (kind : ItemKind)
  deriving DecidableEq

namespace ParamKind

/-- What an argument is converted to. -/
abbrev Carrier : ParamKind → Type
  | .number => Float
  | .boolean => Bool
  | .string => String
  | .value => Value
  | .items kind => List kind.Carrier

/-- Converts one argument. -/
def convert : (kind : ParamKind) → Value → Except Error kind.Carrier
  | .number, .num x => .ok x
  | .number, other => .error (.of (.expected "number" other))
  | .boolean, .bool flag => .ok flag
  | .boolean, other => .error (.of (.expected "boolean" other))
  | .string, .str text => .ok text
  | .string, other => .error (.of (.expected "string" other))
  | .value, argument => .ok argument
  | .items kind, .list run => kind.convertAll run
  | .items _, other => .error (.of (.expected "list" other))

end ParamKind

/-- Functions with a parameter of each kind. -/
abbrev Typed : List ParamKind → Type → Type
  | [], result => result
  | kind :: kinds, result => kind.Carrier → Typed kinds result

namespace Operation

/-- Converts arguments from left to right and passes them to a function; the arguments after the
parameters are returned. -/
def feed {result : Type} : (kinds : List ParamKind) → Typed kinds result → List Value →
    Except Error (result × List Value)
  | [], function, rest => .ok (function, rest)
  | _ :: _, _, [] => .error ((Arity.atLeast 1).error 0)
  | kind :: kinds, function, value :: rest =>
    match kind.convert value with
    | .error error => .error error
    | .ok argument => feed kinds (function argument) rest

/-- The operation of a function with typed parameters; it takes one argument for each. -/
def typed (kinds : List ParamKind) (function : Typed kinds Reply) : Operation := fun _ args =>
  match (Arity.exact kinds.length).check args.length with
  | .error error => .fail error
  | .ok () =>
    match feed kinds function args with
    | .error error => .fail error
    | .ok (reply, _) => reply

/-- Demands a number of arguments before an operation. -/
def checked (arity : Arity) (operation : Operation) : Operation := fun lookup args =>
  match arity.check args.length with
  | .error error => .fail error
  | .ok () => operation lookup args

/-- The operation of a function with typed parameters and a last parameter for the run of all
further arguments. The declared arity is checked first, then that the arguments cover the
parameters. -/
def variadic (arity : Arity) (kinds : List ParamKind) (items : ItemKind)
    (function : Typed kinds (List items.Carrier → Reply)) : Operation :=
  checked arity (checked (.atLeast kinds.length) fun _ args =>
    match feed kinds function args with
    | .error error => .fail error
    | .ok (function, rest) =>
      match items.convertAll rest with
      | .error error => .fail error
      | .ok run => function run)

/-- The operation of a function on the arguments as they are. -/
def plain (function : List Value → Reply) : Operation := fun _ args => function args

end Operation

/-- A host function under its name. -/
structure Registration where
  /-- The name it is bound to. -/
  name : String
  /-- How the binding is used. -/
  options : BindingOptions
  /-- What it does. -/
  operation : Operation

/-- The functions of a host, in the order in which they are registered. -/
abbrev Host := List Registration

namespace Host

/-- The function of a name: the one that was registered last. -/
def operation? (host : Host) (name : String) : Option Operation :=
  (host.reverse.find? fun registration => registration.name = name).map Registration.operation

/-- What is registered later takes over its names and leaves the functions of other names. -/
theorem operation?_append (first second : Host) (name : String) :
    operation? (first ++ second) name =
      (second.operation? name).or (first.operation? name) := by
  rw [operation?, List.reverse_append, List.find?_append, Option.map_or]
  rfl

/-- A function that is found by its name is one of the host. -/
theorem mem_of_operation? {host : Host} {id : String} {operation : Operation}
    (h : host.operation? id = some operation) :
    ∃ registration ∈ host, registration.operation = operation := by
  obtain ⟨registration, hregistration, hoperation⟩ := Option.map_eq_some_iff.mp h
  exact ⟨registration, List.mem_reverse.mp (List.mem_of_find?_eq_some hregistration), hoperation⟩

/-- The functions of a host are found by their names. -/
theorem isSome_operation? {host : Host} {registration : Registration}
    (h : registration ∈ host) : (host.operation? registration.name).isSome = true := by
  rw [operation?, Option.isSome_map, List.find?_isSome]
  exact ⟨registration, List.mem_reverse.mpr h, decide_eq_true rfl⟩

/-- Binds the functions of a host in a scope. -/
def register (host : Host) (id : ScopeId) (store : Store) : Store :=
  host.foldl
    (fun store registration =>
      store.bind id registration.name ⟨.builtin registration.name, registration.options⟩)
    store

end Host

end ShapeLisp
