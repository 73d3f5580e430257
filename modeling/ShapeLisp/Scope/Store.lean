import ShapeLisp.Shape.Match

/-!
# Scopes

Names are bound in scopes. A scope knows the scopes around it, nearest first, and holds for every
name the list of its bindings, oldest first: defining a name again adds a binding and keeps the
earlier ones. A call chooses among the bindings of a name by the shapes of their parameters.

All scopes of an evaluation live in one store and are known by their number.
-/

namespace ShapeLisp

variable [Regex.Engine]

/-- How a binding is used. -/
structure BindingOptions where
  /-- Calls pass the argument expressions as they are written. -/
  skipArgs : Bool := false
  /-- The name cannot be defined again in the same scope. -/
  locked : Bool := false
  deriving DecidableEq

/-- One binding of a name. -/
structure Binding where
  /-- The value bound. -/
  value : Value
  /-- How it is used. -/
  options : BindingOptions

/-- A scope. -/
structure Scope where
  /-- The scopes around it, nearest first. -/
  outer : List ScopeId
  /-- The bindings of every name, oldest first. -/
  names : Keyed (List Binding)

namespace Scope

/-- The bindings of a name, oldest first. -/
def bindings (scope : Scope) (name : String) : List Binding :=
  (scope.names.find? name).getD []

/-- Adds a binding of a name after those it has. -/
def bind (scope : Scope) (name : String) (binding : Binding) : Scope :=
  { scope with names := scope.names.insert name (scope.bindings name ++ [binding]) }

end Scope

/-- All scopes, each under its number. -/
structure Store where
  /-- The scopes in the order in which they were made. -/
  scopes : Array Scope

/-- How a call found its binding among those of a name in one scope. -/
inductive Dispatch where
  /-- The closure at this index is the first whose parameters match. -/
  | matched (index candidates : Nat)
  /-- None of several matched and the latest was taken. -/
  | fellBack (candidates : Nat)
  /-- The only binding was taken, or no arguments were given. -/
  | latest
  deriving DecidableEq

namespace Store

/-- The store without scopes. -/
def empty : Store := ⟨#[]⟩

/-- The scope of a number; one that does not exist is empty and stands alone. -/
def scope (store : Store) (id : ScopeId) : Scope :=
  store.scopes.getD id ⟨[], []⟩

/-- The scope itself and those around it, nearest first. -/
def chain (store : Store) (id : ScopeId) : List ScopeId :=
  id :: (store.scope id).outer

/-- The scope right around a scope. -/
def parent? (store : Store) (id : ScopeId) : Option ScopeId :=
  (store.scope id).outer.head?

/-- Adds a scope of its own. -/
def addRoot (store : Store) : ScopeId × Store :=
  (store.scopes.size, ⟨store.scopes.push ⟨[], []⟩⟩)

/-- Adds a scope inside a scope. -/
def addChild (store : Store) (id : ScopeId) : ScopeId × Store :=
  (store.scopes.size, ⟨store.scopes.push ⟨store.chain id, []⟩⟩)

/-- Adds a binding to a scope, whether the name is locked or not. -/
def bind (store : Store) (id : ScopeId) (name : String) (binding : Binding) : Store :=
  ⟨store.scopes.modify id fun scope => scope.bind name binding⟩

/-- Whether the latest binding of a name in a scope is locked. -/
def isLocked (store : Store) (id : ScopeId) (name : String) : Bool :=
  ((store.scope id).bindings name).getLast?.any fun binding => binding.options.locked

/-- Adds a binding to a scope unless the name is locked there. -/
def define (store : Store) (id : ScopeId) (name : String) (binding : Binding) :
    Except Error Store :=
  if store.isLocked id name then .error (.of (.locked name))
  else .ok (store.bind id name binding)

/-- The bindings of a name in the nearest scope of a chain that binds it. -/
def candidates? (store : Store) (name : String) : List ScopeId → Option (List Binding)
  | [] => none
  | id :: rest =>
    match (store.scope id).bindings name with
    | [] => candidates? store name rest
    | found => some found

/-- The latest binding of a name in the nearest scope that binds it. -/
def lookup (store : Store) (id : ScopeId) (name : String) : Except Error Binding :=
  match (store.candidates? name (store.chain id)).bind List.getLast? with
  | some binding => .ok binding
  | none => .error (.undefinedSymbol name)

/-- Whether a binding is a closure whose parameters match arguments. -/
def matchesArgs (args : List Value) (binding : Binding) : Bool :=
  match binding.value with
  | .closure params _ _ _ => (Shape.matchParams params args).isSome
  | _ => false

/-- The binding that arguments choose among the bindings of a name: the first closure whose
parameters match them, or else the latest. -/
def choose (args : List Value) (candidates : List Binding) : Option (Binding × Dispatch) :=
  match candidates.findIdx? (matchesArgs args) with
  | some index =>
    candidates[index]?.map fun binding => (binding, .matched index candidates.length)
  | none =>
    candidates.getLast?.map fun binding =>
      (binding, if 1 < candidates.length then .fellBack candidates.length else .latest)

/-- The binding that a call with arguments finds, in the nearest scope that binds the name. -/
def dispatch (store : Store) (id : ScopeId) (name : String) (args : List Value) :
    Except Error (Binding × Dispatch) :=
  match (store.candidates? name (store.chain id)).bind (choose args) with
  | some found => .ok found
  | none => .error (.undefinedSymbol name)

/-- Every visible name with its latest value, in the order of the names; inner scopes hide outer
ones. -/
def visible (store : Store) (id : ScopeId) : Keyed Value :=
  (store.chain id).reverse.foldl
    (fun known id =>
      known.insertAll ((store.scope id).names.filterMap fun (name, bindings) =>
        bindings.getLast?.map fun binding => (name, binding.value)))
    []

/-- The names bound in a scope itself, in order. -/
def ownNames (store : Store) (id : ScopeId) : List String :=
  (store.scope id).names.keys

end Store

end ShapeLisp
