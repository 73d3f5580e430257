import ShapeLisp.Proofs.Keyed
import ShapeLisp.Scope.Store

/-!
# What operations do to a store

Every operation on a store is described by the scopes that it leaves: how many there are, which
one changes, and how the bindings of a name in it change.
-/

namespace ShapeLisp

variable [Regex.Engine]

namespace Scope

/-- A binding is added after those that the name has. -/
@[simp]
theorem bindings_bind_self (scope : Scope) (name : String) (binding : Binding) :
    (scope.bind name binding).bindings name = scope.bindings name ++ [binding] := by
  simp only [bind, bindings, Keyed.find?_insert_self, Option.getD_some]

/-- A binding of one name leaves the other names alone. -/
@[simp]
theorem bindings_bind_of_ne {name other : String} (hne : other ≠ name) (scope : Scope)
    (binding : Binding) : (scope.bind name binding).bindings other = scope.bindings other := by
  simp only [bind, bindings, Keyed.find?_insert_of_ne hne]

/-- A binding leaves the scopes around alone. -/
@[simp]
theorem outer_bind (scope : Scope) (name : String) (binding : Binding) :
    (scope.bind name binding).outer = scope.outer := rfl

/-- The earlier bindings of every name stay in front. -/
theorem bindings_prefix_bind (scope : Scope) (name other : String) (binding : Binding) :
    scope.bindings other <+: (scope.bind name binding).bindings other := by
  by_cases h : other = name
  · subst h
    rw [bindings_bind_self]
    exact List.prefix_append ..
  · exact ⟨[], by rw [List.append_nil, bindings_bind_of_ne h]⟩

end Scope

namespace Store

/-- Binding makes no scope. -/
@[simp]
theorem size_bind (store : Store) (id : ScopeId) (name : String) (binding : Binding) :
    (store.bind id name binding).scopes.size = store.scopes.size := by
  simp only [bind, Array.size_modify]

/-- Binding changes the scope it is asked to change. -/
theorem scope_bind_self (store : Store) {id : ScopeId} (h : id < store.scopes.size)
    (name : String) (binding : Binding) :
    (store.bind id name binding).scope id = (store.scope id).bind name binding := by
  simp only [bind, scope, Array.getD_eq_getD_getElem?, Array.getElem?_modify, if_true,
    Array.getElem?_eq_getElem h, Option.map_some, Option.getD_some]

/-- Binding leaves the other scopes alone. -/
theorem scope_bind_of_ne (store : Store) {id other : ScopeId} (hne : other ≠ id) (name : String)
    (binding : Binding) : (store.bind id name binding).scope other = store.scope other := by
  simp only [bind, scope, Array.getD_eq_getD_getElem?, Array.getElem?_modify,
    if_neg (Ne.symm hne)]

/-- Every scope after a binding. Where there is no scope of the number nothing changes. -/
theorem scope_bind (store : Store) (id : ScopeId) (name : String) (binding : Binding)
    (other : ScopeId) : (store.bind id name binding).scope other =
      if other = id ∧ id < store.scopes.size then (store.scope other).bind name binding
      else store.scope other := by
  by_cases hother : other = id
  · subst hother
    by_cases hsize : other < store.scopes.size
    · rw [if_pos ⟨rfl, hsize⟩, scope_bind_self store hsize]
    · have hnone : store.scopes[other]? = none := Array.getElem?_eq_none (Nat.le_of_not_lt hsize)
      rw [if_neg fun h => hsize h.2]
      simp only [bind, scope, Array.getD_eq_getD_getElem?, Array.getElem?_modify, hnone,
        Option.map_none, ite_self]
  · rw [if_neg fun h => hother h.1, scope_bind_of_ne store hother]

/-- A new scope is one more. -/
@[simp]
theorem size_addChild (store : Store) (outer : ScopeId) :
    (store.addChild outer).2.scopes.size = store.scopes.size + 1 := by
  simp only [addChild, Array.size_push]

/-- A new scope leaves the others alone. -/
theorem scope_addChild_of_lt (store : Store) (outer : ScopeId) {id : ScopeId}
    (h : id < store.scopes.size) : (store.addChild outer).2.scope id = store.scope id := by
  simp only [addChild, scope, Array.getD_eq_getD_getElem?, Array.getElem?_push_lt h,
    Array.getElem?_eq_getElem h]

/-- A new scope is empty and stands inside the scope it was made in. -/
theorem scope_addChild_size (store : Store) (outer : ScopeId) :
    (store.addChild outer).2.scope store.scopes.size = ⟨store.chain outer, []⟩ := by
  simp only [addChild, scope, Array.getD_eq_getD_getElem?, Array.getElem?_push_size,
    Option.getD_some]

/-- Every scope after a new one was added. -/
theorem scope_addChild (store : Store) (outer other : ScopeId) :
    (store.addChild outer).2.scope other =
      if other = store.scopes.size then ⟨store.chain outer, []⟩ else store.scope other := by
  simp only [addChild, scope, Array.getD_eq_getD_getElem?, Array.getElem?_push]
  split <;> rfl

end Store

end ShapeLisp
