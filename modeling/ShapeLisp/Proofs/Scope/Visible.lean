import ShapeLisp.Proofs.Eval.Stable
import ShapeLisp.Proofs.Scope.Lookup
import ShapeLisp.Proofs.Text.ByteOrder
import ShapeLisp.Regex.Engine

/-!
# The visible names

The names visible from a scope are collected from the outermost scope inward, each scope putting its
latest values over what is already known. A lookup goes the other way and stops at the first scope
that binds the name. Both agree: what is collected under a name is what a lookup finds.

In every scope the names are kept in order. This is an invariant of the ways in which a store comes
to be, so it holds of every tree of scopes with every history of bindings.
-/

namespace ShapeLisp

section AnyEngine

variable [Regex.Engine]

/-- The latest value of every name that a scope itself binds. -/
def Scope.latest (scope : Scope) : Keyed Value :=
  scope.names.filterEntries fun bindings => bindings.getLast?.map Binding.value

namespace Store

/-! ### Names in order -/

/-- A store with a history: it comes from the store without scopes by making scopes, on their own or
inside others, and by adding bindings. -/
inductive Built : Store → Prop where
  /-- Nothing has been made. -/
  | empty : Built empty
  /-- A scope of its own was made. -/
  | addRoot {store : Store} : Built store → Built store.addRoot.2
  /-- A scope inside a scope was made. -/
  | addChild {store : Store} (outer : ScopeId) : Built store → Built (store.addChild outer).2
  /-- A binding was added. -/
  | bind {store : Store} (id : ScopeId) (name : String) (binding : Binding) :
    Built store → Built (store.bind id name binding)

/-- A history goes on with new scopes and bindings. -/
theorem stable_built : Stable Built where
  addChild outer h := .addChild outer h
  bind id name binding h := .bind id name binding h

/-- In every scope the names are in order. -/
def NamesSorted (store : Store) : Prop :=
  ∀ id, (store.scope id).names.Sorted

/-- New scopes and bindings leave the names in order. -/
theorem stable_namesSorted : Stable NamesSorted where
  addChild {store} outer h id := by
    rw [scope_addChild]
    split
    · exact List.Pairwise.nil
    · exact h id
  bind {store} id name binding h other := by
    rw [scope_bind]
    split
    · exact (h other).insert name _
    · exact h other

/-- A new scope on its own binds nothing. -/
theorem namesSorted_addRoot {store : Store} (h : store.NamesSorted) :
    store.addRoot.2.NamesSorted := by
  intro id
  simp only [addRoot, scope, Array.getD_eq_getD_getElem?, Array.getElem?_push]
  split
  · exact List.Pairwise.nil
  · have hid := h id
    rwa [scope, Array.getD_eq_getD_getElem?] at hid

/-- Whatever the history of a store, the names in every scope are in order. -/
theorem Built.namesSorted {store : Store} (h : store.Built) : store.NamesSorted := by
  induction h with
  | empty => exact fun _ => List.Pairwise.nil
  | addRoot _ ih => exact namesSorted_addRoot ih
  | addChild outer _ ih => exact stable_namesSorted.addChild outer ih
  | bind id name binding _ ih => exact stable_namesSorted.bind id name binding ih

/-! ### What is collected -/

/-- What is visible from the scopes of a chain, nearest first. -/
def collected (store : Store) : List ScopeId → Keyed Value
  | [] => []
  | id :: outer => (store.collected outer).insertAll (store.scope id).latest

/-- The visible names are collected along the chain of the scope. -/
theorem visible_eq (store : Store) (id : ScopeId) :
    store.visible id = store.collected (store.chain id) := by
  rw [visible, List.foldl_reverse]
  induction store.chain id with
  | nil => rfl
  | cons near outer ih =>
    rw [List.foldr_cons, ih, collected, Scope.latest, Keyed.filterEntries]
    simp only [Option.map_map, Function.comp_def]

variable {store : Store}

/-- What is collected is in the order of the names. -/
theorem sorted_collected (ids : List ScopeId) : (store.collected ids).Sorted := by
  induction ids with
  | nil => exact List.Pairwise.nil
  | cons id outer ih => exact ih.insertAll _

/-- Under a name a scope has its latest value. -/
theorem NamesSorted.find?_latest (h : store.NamesSorted) (id : ScopeId) (name : String) :
    (store.scope id).latest.find? name =
      ((store.scope id).bindings name).getLast?.map Binding.value := by
  rw [Scope.latest, (h id).find?_filterEntries, Scope.bindings]
  cases (store.scope id).names.find? name <;> rfl

/-- What is collected under a name is the latest value in the nearest scope that binds it. -/
theorem NamesSorted.find?_collected (h : store.NamesSorted) (ids : List ScopeId) (name : String) :
    (store.collected ids).find? name =
      (((store.candidates? name ids).bind List.getLast?).map Binding.value) := by
  induction ids with
  | nil => rfl
  | cons id outer ih =>
    have hlatest : (store.scope id).latest.Sorted := (h id).filterEntries _
    rw [collected, Keyed.find?_insertAll hlatest, h.find?_latest, ih, candidates?]
    cases hbindings : (store.scope id).bindings name with
    | nil => rfl
    | cons binding more =>
      rw [Option.bind_some, List.getLast?_eq_some_getLast (List.cons_ne_nil binding more),
        Option.map_some, Option.some_or]

/-- What is visible under a name is what a lookup finds. -/
theorem NamesSorted.mem_visible_iff (h : store.NamesSorted) (id : ScopeId) (name : String)
    (value : Value) : (name, value) ∈ store.visible id ↔
      ∃ binding, store.lookup id name = .ok binding ∧ binding.value = value := by
  rw [visible_eq, (sorted_collected _).mem_iff, h.find?_collected, lookup,
    Option.map_eq_some_iff]
  cases (store.candidates? name (store.chain id)).bind List.getLast? <;> simp

/-- Introspection agrees with lookup. Whatever the history of a store, the names visible from a
scope strictly increase in the order of their bytes, so that no name occurs twice, and a name is
visible with a value exactly when a lookup of the name from the scope finds a binding with this
value. The store of a session has such a history, whatever the session was asked to do. -/
theorem visible_agrees_with_lookup :
    (∀ store : Store, store.Built → ∀ id,
      (store.visible id).Pairwise
        (fun first second => Text.bytes first.1 < Text.bytes second.1) ∧
      ∀ name value, (name, value) ∈ store.visible id ↔
        ∃ binding, store.lookup id name = .ok binding ∧ binding.value = value) ∧
    ∀ (host : Host) (actions : List Session.Action),
      ((Session.global host).performAll actions).store.Built ∧
        ((Session.bare host).performAll actions).store.Built := by
  refine ⟨fun store hbuilt id => ⟨?_, hbuilt.namesSorted.mem_visible_iff id⟩,
    fun host actions => ⟨?_, ?_⟩⟩
  · have hsorted : (store.visible id).Sorted := by
      rw [visible_eq]
      exact sorted_collected _
    exact (List.pairwise_map.mp hsorted).imp Text.bytes_lt
  · have hstandard := stable_built.register Standard.host 0 (.addRoot .empty)
    have hconstants := stable_built.bindEach Prod.fst (fun entry => ⟨entry.2, {}⟩) 0
      Standard.constants hstandard
    exact stable_built.performAll (stable_built.register host 0 hconstants) actions
  · exact stable_built.performAll (stable_built.register host 0 (.addRoot .empty)) actions

end Store

end AnyEngine

namespace Store

/-- A scope that binds one name twice and another once, and a scope inside it that binds the first
name again. -/
def shadowedStore : Store :=
  ((((empty.addRoot.2.bind 0 "b" ⟨.str "first", {}⟩).bind 0 "a" ⟨.str "outer", {}⟩).bind 0 "b"
    ⟨.str "second", {}⟩).addChild 0).2.bind 1 "b" ⟨.str "inner", {}⟩

/-- From the inner scope its own value is seen, and from the outer scope the later one of two. -/
theorem visible_agrees_with_lookup_of_shadowed :
    shadowedStore.Built ∧ ("b", .str "inner") ∈ shadowedStore.visible 1 ∧
      ("a", .str "outer") ∈ shadowedStore.visible 1 ∧
      ("b", .str "second") ∈ shadowedStore.visible 0 ∧
      ("b", .str "second") ∉ shadowedStore.visible 1 := by
  have hbuilt : shadowedStore.Built :=
    .bind _ _ _ (.addChild _ (.bind _ _ _ (.bind _ _ _ (.bind _ _ _ (.addRoot .empty)))))
  have hagrees := fun id => (visible_agrees_with_lookup.1 shadowedStore hbuilt id).2
  refine ⟨hbuilt, (hagrees 1 _ _).mpr ⟨⟨.str "inner", {}⟩, rfl, rfl⟩,
    (hagrees 1 _ _).mpr ⟨⟨.str "outer", {}⟩, rfl, rfl⟩,
    (hagrees 0 _ _).mpr ⟨⟨.str "second", {}⟩, rfl, rfl⟩, fun hmem => ?_⟩
  obtain ⟨binding, hfound, hvalue⟩ := (hagrees 1 _ _).mp hmem
  obtain rfl := Except.ok.inj hfound
  exact absurd (Value.str.inj hvalue) (by decide)

end Store

end ShapeLisp
