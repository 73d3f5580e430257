import ShapeLisp.Proofs.Eval.Outcome
import ShapeLisp.Proofs.Scope.Store
import ShapeLisp.Regex.Engine

/-!
# Definitions and lookups

A lookup goes to the nearest scope that binds the name and sees the bindings in that scope only. A
definition adds one binding at the end of one list, so it can be followed exactly: a call that
matched a closure before still gets that closure, every other call of the name from where the scope
is the nearest one gets the new binding, and all other lookups stay as they were.

A sequence of definitions is a history of each list, and the history decides every lookup.
-/

namespace ShapeLisp

section AnyEngine

variable [Regex.Engine]

/-- Whether a scope binds a name. -/
def Scope.binds (scope : Scope) (name : String) : Bool :=
  !(scope.bindings name).isEmpty

namespace Store

/-! ### The nearest scope -/

/-- The nearest scope that binds a name, from a scope outward. -/
def nearest? (store : Store) (id : ScopeId) (name : String) : Option ScopeId :=
  (store.chain id).find? fun near => (store.scope near).binds name

/-- The candidates for a name are the bindings in the nearest scope that binds it. -/
theorem candidates?_eq_find? (store : Store) (name : String) (ids : List ScopeId) :
    store.candidates? name ids = (ids.find? fun near => (store.scope near).binds name).map
      fun near => (store.scope near).bindings name := by
  induction ids with
  | nil => rfl
  | cons id rest ih =>
    rw [candidates?, List.find?_cons, Scope.binds]
    cases hbindings : (store.scope id).bindings name with
    | nil => exact ih
    | cons binding more => rw [List.isEmpty_cons, Bool.not_false, Option.map_some, hbindings]

/-- The candidates for a name depend on its bindings in the scopes that are searched. -/
theorem candidates?_congr {first second : Store} {name : String} {ids : List ScopeId}
    (h : ∀ id ∈ ids, (first.scope id).bindings name = (second.scope id).bindings name) :
    first.candidates? name ids = second.candidates? name ids := by
  induction ids with
  | nil => rfl
  | cons id rest ih =>
    rw [candidates?, candidates?, h id List.mem_cons_self,
      ih fun other hother => h other (List.mem_cons_of_mem _ hother)]

/-- The answer of a lookup that may have found nothing. -/
def answer {α : Type} (name : String) : Option α → Except Error α
  | some found => .ok found
  | none => .error (.undefinedSymbol name)

/-- A lookup succeeds exactly with what it has found. -/
theorem answer_eq_ok {α : Type} {name : String} {found : Option α} {a : α} :
    answer name found = .ok a ↔ found = some a := by
  cases found <;> simp [answer]

/-- A lookup finds the latest binding in the nearest scope. -/
theorem lookup_eq_answer (store : Store) (id : ScopeId) (name : String) :
    store.lookup id name = answer name ((store.nearest? id name).bind fun near =>
      ((store.scope near).bindings name).getLast?) := by
  rw [lookup, candidates?_eq_find?, Option.bind_map, nearest?, Function.comp_def]
  split
  · next found hfound => rw [hfound, answer]
  · next hnone => rw [hnone, answer]

/-- A lookup with arguments chooses among the bindings in the nearest scope. -/
theorem dispatch_eq_answer (store : Store) (id : ScopeId) (name : String) (args : List Value) :
    store.dispatch id name args = answer name ((store.nearest? id name).bind fun near =>
      choose args ((store.scope near).bindings name)) := by
  rw [dispatch, candidates?_eq_find?, Option.bind_map, nearest?, Function.comp_def]
  split
  · next found hfound => rw [hfound, answer]
  · next hnone => rw [hnone, answer]

/-- The binding that a lookup with arguments finds, without the note on how it was found. -/
def overload (store : Store) (id : ScopeId) (name : String) (args : List Value) :
    Except Error Binding :=
  (store.dispatch id name args).map Prod.fst

/-- The first closure that matches the arguments, or else the latest binding. -/
def chosen (args : List Value) (candidates : List Binding) : Option Binding :=
  (candidates.find? (matchesArgs args)).or candidates.getLast?

/-- Arguments choose the first closure that matches them, or else the latest binding. -/
theorem map_fst_choose (args : List Value) (candidates : List Binding) :
    (choose args candidates).map Prod.fst = chosen args candidates := by
  rw [choose, chosen, List.find?_eq_bind_findIdx?_getElem?]
  split
  · next index hindex =>
    obtain ⟨hlt, -⟩ := List.findIdx?_eq_some_iff_getElem.mp hindex
    rw [hindex, Option.bind_some, List.getElem?_eq_getElem hlt, Option.map_some, Option.map_some,
      Option.some_or]
  · next hnone =>
    rw [hnone, Option.bind_none, Option.none_or, Option.map_map]
    exact Option.map_id_apply

/-- A lookup with arguments finds the chosen binding of the nearest scope. -/
theorem overload_eq_answer (store : Store) (id : ScopeId) (name : String) (args : List Value) :
    store.overload id name args = answer name ((store.nearest? id name).bind fun near =>
      chosen args ((store.scope near).bindings name)) := by
  have hmap : ∀ found : Option (Binding × Dispatch),
      (answer name found).map Prod.fst = answer name (found.map Prod.fst) := by
    intro found
    cases found <;> rfl
  rw [overload, dispatch_eq_answer, hmap, Option.map_bind]
  simp only [Function.comp_def, map_fst_choose]

/-- What a lookup finds is bound to the name in some scope. -/
theorem exists_mem_of_lookup {store : Store} {id : ScopeId} {name : String} {binding : Binding}
    (h : store.lookup id name = .ok binding) :
    ∃ near, binding ∈ (store.scope near).bindings name := by
  rw [lookup_eq_answer, answer_eq_ok] at h
  obtain ⟨near, -, hlast⟩ := Option.bind_eq_some_iff.mp h
  exact ⟨near, List.mem_of_getLast? hlast⟩

/-- What a lookup with arguments finds is bound to the name in some scope. -/
theorem exists_mem_of_dispatch {store : Store} {id : ScopeId} {name : String} {args : List Value}
    {binding : Binding} {how : Dispatch} (h : store.dispatch id name args = .ok (binding, how)) :
    ∃ near, binding ∈ (store.scope near).bindings name := by
  rw [dispatch_eq_answer, answer_eq_ok] at h
  obtain ⟨near, -, hchoice⟩ := Option.bind_eq_some_iff.mp h
  have hchosen := map_fst_choose args ((store.scope near).bindings name)
  rw [hchoice, Option.map_some, chosen] at hchosen
  rcases Option.or_eq_some_iff.mp hchosen.symm with hfirst | ⟨-, hlast⟩
  · exact ⟨near, List.mem_of_find?_eq_some hfirst⟩
  · exact ⟨near, List.mem_of_getLast? hlast⟩

/-- No scope binds a name, from a scope outward. -/
def Unbound (store : Store) (id : ScopeId) (name : String) : Prop :=
  ∀ near ∈ store.chain id, (store.scope near).bindings name = []

/-- A search ends nowhere exactly when no scope binds the name. -/
theorem nearest?_eq_none_iff {store : Store} {id : ScopeId} {name : String} :
    store.nearest? id name = none ↔ store.Unbound id name := by
  rw [nearest?, List.find?_eq_none, Unbound]
  simp only [Scope.binds, Bool.not_eq_true', Bool.not_eq_false, List.isEmpty_iff]

/-- In the nearest scope the name has a binding. -/
theorem bindings_ne_nil_of_nearest? {store : Store} {id near : ScopeId} {name : String}
    (h : store.nearest? id name = some near) : (store.scope near).bindings name ≠ [] := by
  have hbinds := List.find?_some h
  rw [Scope.binds, Bool.not_eq_true'] at hbinds
  exact List.isEmpty_eq_false_iff.mp hbinds

/-- A search for a name that goes on with the nearest scope fails exactly when no scope binds the
name, as long as something is found wherever there are bindings. -/
theorem answer_eq_error_iff {α : Type} {store : Store} {id : ScopeId} {name : String}
    {find : List Binding → Option α} (hfind : ∀ found, find found = none → found = [])
    {error : Error} :
    answer name ((store.nearest? id name).bind fun near =>
        find ((store.scope near).bindings name)) = .error error ↔
      store.Unbound id name ∧ error = .undefinedSymbol name := by
  rw [← nearest?_eq_none_iff]
  cases hnear : store.nearest? id name with
  | none => simp [answer, eq_comm]
  | some near =>
    have hbindings := bindings_ne_nil_of_nearest? hnear
    obtain ⟨found, hfound⟩ := Option.ne_none_iff_exists'.mp fun h => hbindings (hfind _ h)
    simp [hfound, answer]

/-- A lookup fails exactly when no scope binds the name, and it names the name. -/
theorem lookup_eq_error_iff {store : Store} {id : ScopeId} {name : String} {error : Error} :
    store.lookup id name = .error error ↔
      store.Unbound id name ∧ error = .undefinedSymbol name := by
  rw [lookup_eq_answer]
  exact answer_eq_error_iff fun found => List.getLast?_eq_none_iff.mp

/-- A lookup with arguments fails exactly when no scope binds the name, and it names the name. -/
theorem dispatch_eq_error_iff {store : Store} {id : ScopeId} {name : String} {args : List Value}
    {error : Error} :
    store.dispatch id name args = .error error ↔
      store.Unbound id name ∧ error = .undefinedSymbol name := by
  rw [dispatch_eq_answer]
  refine answer_eq_error_iff fun found hnone => ?_
  have hchosen := map_fst_choose args found
  rw [hnone, Option.map_none, chosen] at hchosen
  exact List.getLast?_eq_none_iff.mp (Option.or_eq_none_iff.mp hchosen.symm).2

/-- A binding that is added is chosen by the arguments that matched nothing before. -/
theorem chosen_concat (args : List Value) (candidates : List Binding) (binding : Binding) :
    chosen args (candidates ++ [binding]) =
      if candidates.any (matchesArgs args) then chosen args candidates else some binding := by
  rw [chosen, chosen, List.find?_append, List.getLast?_concat]
  split
  · next hany =>
    obtain ⟨found, hfound⟩ := Option.isSome_iff_exists.mp
      (List.find?_isSome.mpr (List.any_eq_true.mp hany))
    rw [hfound, Option.some_or, Option.some_or, Option.some_or]
  · next hany =>
    have hnone : candidates.find? (matchesArgs args) = none := by
      rw [List.find?_eq_none]
      intro other hother hmatches
      exact hany (List.any_eq_true.mpr ⟨other, hother, hmatches⟩)
    rw [hnone, Option.none_or, List.find?_singleton]
    split <;> rfl

/-! ### One definition -/

section Bind

variable {store : Store} {scope : ScopeId} (hscope : scope < store.scopes.size) (name : String)
  (binding : Binding)

include hscope

/-- The bindings of every name in every scope after one binding was added. -/
theorem bindings_bind (id : ScopeId) (other : String) :
    ((store.bind scope name binding).scope id).bindings other =
      if id = scope ∧ other = name then (store.scope id).bindings other ++ [binding]
      else (store.scope id).bindings other := by
  by_cases hid : id = scope
  · subst hid
    rw [scope_bind_self store hscope]
    by_cases hname : other = name
    · subst hname
      rw [if_pos ⟨rfl, rfl⟩, Scope.bindings_bind_self]
    · rw [if_neg fun h => hname h.2, Scope.bindings_bind_of_ne hname]
  · rw [if_neg fun h => hid h.1, scope_bind_of_ne store hid]

/-- Binding leaves the scopes around every scope alone. -/
theorem chain_bind (id : ScopeId) : (store.bind scope name binding).chain id = store.chain id := by
  rw [chain, chain]
  by_cases hid : id = scope
  · subst hid
    rw [scope_bind_self store hscope, Scope.outer_bind]
  · rw [scope_bind_of_ne store hid]

/-- The scope binds the name afterwards, and nothing else is bound that was not. -/
theorem binds_bind (id : ScopeId) (other : String) :
    ((store.bind scope name binding).scope id).binds other =
      (decide (id = scope ∧ other = name) || (store.scope id).binds other) := by
  rw [Scope.binds, bindings_bind hscope name binding]
  by_cases h : id = scope ∧ other = name
  · rw [if_pos h, decide_eq_true h, Bool.true_or]
    simp
  · rw [if_neg h, decide_eq_false h, Bool.false_or, Scope.binds]

/-- A search that passes by the scope, or is for another name, ends where it ended before. -/
theorem nearest?_bind_of_ne {id : ScopeId} {other : String}
    (h : other ≠ name ∨ (store.bind scope name binding).nearest? id name ≠ some scope) :
    (store.bind scope name binding).nearest? id other = store.nearest? id other := by
  by_cases hname : other = name
  · subst hname
    have hpassed := h.resolve_left fun hne => hne rfl
    rw [nearest?, chain_bind hscope] at hpassed ⊢
    rw [nearest?]
    simp only [binds_bind hscope other binding, and_true] at hpassed ⊢
    -- Up to where the search ends the scope itself does not occur.
    generalize store.chain id = ids at hpassed ⊢
    induction ids with
    | nil => rfl
    | cons near rest ih =>
      by_cases hnear : near = scope
      · simp [hnear] at hpassed
      · simp only [List.find?_cons, hnear, decide_false, Bool.false_or] at hpassed ⊢
        split
        · rfl
        · next hnot =>
          rw [hnot] at hpassed
          exact ih hpassed
  · rw [nearest?, nearest?, chain_bind hscope]
    simp only [binds_bind hscope name binding, hname, and_false, decide_false, Bool.false_or]

/-- A search that ends in the scope ended there before when the scope bound the name. -/
theorem nearest?_of_bind {id : ScopeId} (hbinds : (store.scope scope).binds name = true)
    (h : (store.bind scope name binding).nearest? id name = some scope) :
    store.nearest? id name = some scope := by
  have hsame : ∀ near, ((store.bind scope name binding).scope near).binds name =
      (store.scope near).binds name := by
    intro near
    rw [binds_bind hscope]
    by_cases hnear : near = scope
    · rw [hnear, hbinds, Bool.or_true]
    · simp [hnear]
  rw [nearest?, chain_bind hscope] at h
  simp only [hsame] at h
  exact h

/-- Lookups that pass by the scope, or are for another name, stay as they were. -/
theorem lookup_bind_of_ne {id : ScopeId} {other : String} (args : List Value)
    (h : other ≠ name ∨ (store.bind scope name binding).nearest? id name ≠ some scope) :
    (store.bind scope name binding).dispatch id other args = store.dispatch id other args ∧
      (store.bind scope name binding).lookup id other = store.lookup id other := by
  have hsame : ∀ near ∈ store.nearest? id other,
      ((store.bind scope name binding).scope near).bindings other =
        (store.scope near).bindings other := by
    intro near hnear
    rw [bindings_bind hscope, if_neg]
    rintro ⟨rfl, rfl⟩
    have hends := nearest?_bind_of_ne hscope other binding h
    rcases h with h | h
    · exact h rfl
    · exact h (hends.trans hnear)
  rw [dispatch_eq_answer, dispatch_eq_answer, lookup_eq_answer, lookup_eq_answer,
    nearest?_bind_of_ne hscope name binding h]
  cases hnear : store.nearest? id other with
  | none => exact ⟨rfl, rfl⟩
  | some near =>
    rw [Option.bind_some, Option.bind_some, Option.bind_some, Option.bind_some, hsame near hnear]
    exact ⟨rfl, rfl⟩

/-- Lookups that end in the scope find the new binding, unless an earlier closure matches the
arguments. -/
theorem lookup_bind_self {id : ScopeId}
    (h : (store.bind scope name binding).nearest? id name = some scope) :
    (store.bind scope name binding).lookup id name = .ok binding ∧
      ∀ args, (store.bind scope name binding).overload id name args =
        if ((store.scope scope).bindings name).any (matchesArgs args) then
          store.overload id name args
        else .ok binding := by
  have hbindings := bindings_bind hscope name binding scope name
  rw [if_pos ⟨rfl, rfl⟩] at hbindings
  constructor
  · rw [lookup_eq_answer, h, Option.bind_some, hbindings, List.getLast?_concat, answer]
  · intro args
    rw [overload_eq_answer, h, Option.bind_some, hbindings, chosen_concat]
    split
    · next hany =>
      have hbinds : (store.scope scope).binds name = true := by
        obtain ⟨found, hfound, -⟩ := List.any_eq_true.mp hany
        rw [Scope.binds]
        cases hempty : (store.scope scope).bindings name with
        | nil =>
          rw [hempty] at hfound
          cases hfound
        | cons first rest => rfl
      rw [overload_eq_answer, nearest?_of_bind hscope name binding hbinds h, Option.bind_some]
    · rfl

end Bind

/-! ### Sequences of definitions -/

/-- A definition that is made in a scope. -/
structure Definition where
  /-- The scope in which the name is defined. -/
  scope : ScopeId
  /-- The name. -/
  name : String
  /-- The binding it gets. -/
  binding : Binding

/-- The store after a definition, which is the store before when the definition fails. -/
def afterDefine (store : Store) (definition : Definition) : Store :=
  (store.define definition.scope definition.name definition.binding).toOption.getD store

/-- The store after definitions one after the other. -/
def afterDefines (store : Store) (definitions : List Definition) : Store :=
  definitions.foldl afterDefine store

/-- The bindings of a name with one more, which is refused when the latest one is locked. -/
def extend (known : List Binding) (binding : Binding) : List Binding :=
  if known.getLast?.any fun latest => latest.options.locked then known else known ++ [binding]

/-- The bindings of a name in a scope after definitions one after the other. -/
def history (store : Store) (definitions : List Definition) (id : ScopeId) (name : String) :
    List Binding :=
  ((definitions.filter fun definition => definition.scope = id ∧ definition.name = name).map
    Definition.binding).foldl extend ((store.scope id).bindings name)

/-- The nearest scope that binds a name after definitions one after the other. -/
def nearestAfter? (store : Store) (definitions : List Definition) (id : ScopeId) (name : String) :
    Option ScopeId :=
  (store.chain id).find? fun near => !(store.history definitions near name).isEmpty

/-- A definition extends the bindings of its name in its scope and nothing else. -/
theorem bindings_afterDefine {store : Store} {definition : Definition}
    (hscope : definition.scope < store.scopes.size) (id : ScopeId) (name : String) :
    ((store.afterDefine definition).scope id).bindings name =
      if definition.scope = id ∧ definition.name = name then
        extend ((store.scope id).bindings name) definition.binding
      else (store.scope id).bindings name := by
  rw [afterDefine, define, isLocked]
  split
  · next hlocked =>
    split
    · next h => rw [extend, ← h.1, ← h.2, if_pos hlocked]; rfl
    · rfl
  · next hopen =>
    change ((store.bind _ _ _).scope id).bindings name = _
    rw [bindings_bind hscope]
    by_cases h : definition.scope = id ∧ definition.name = name
    · obtain ⟨rfl, rfl⟩ := h
      rw [if_pos ⟨rfl, rfl⟩, if_pos ⟨rfl, rfl⟩, extend, if_neg hopen]
    · rw [if_neg h, if_neg fun hsame => h ⟨hsame.1.symm, hsame.2.symm⟩]

/-- A definition makes no scope and leaves the scopes around every scope alone. -/
theorem chain_afterDefine {store : Store} {definition : Definition}
    (hscope : definition.scope < store.scopes.size) :
    (store.afterDefine definition).scopes.size = store.scopes.size ∧
      ∀ id, (store.afterDefine definition).chain id = store.chain id := by
  rw [afterDefine, define]
  split
  · exact ⟨rfl, fun _ => rfl⟩
  · exact ⟨size_bind .., chain_bind hscope _ _⟩

/-- After definitions one after the other every name has its history in every scope, and the scopes
around every scope are as they were. -/
theorem bindings_afterDefines {store : Store} {definitions : List Definition}
    (hscopes : ∀ definition ∈ definitions, definition.scope < store.scopes.size) (id : ScopeId) :
    (store.afterDefines definitions).chain id = store.chain id ∧
      ∀ name, ((store.afterDefines definitions).scope id).bindings name =
        store.history definitions id name := by
  induction definitions generalizing store with
  | nil => exact ⟨rfl, fun _ => rfl⟩
  | cons definition rest ih =>
    have hscope := hscopes definition List.mem_cons_self
    obtain ⟨hsize, hchain⟩ := chain_afterDefine hscope
    have hrest : ∀ other ∈ rest, other.scope < (store.afterDefine definition).scopes.size := by
      intro other hother
      rw [hsize]
      exact hscopes other (List.mem_cons_of_mem _ hother)
    obtain ⟨hchains, hbindings⟩ := ih hrest
    refine ⟨hchains.trans (hchain id), fun name => (hbindings name).trans ?_⟩
    rw [history, history, bindings_afterDefine hscope, List.filter_cons]
    by_cases h : definition.scope = id ∧ definition.name = name
    · rw [if_pos h, if_pos (decide_eq_true h), List.map_cons, List.foldl_cons]
    · rw [if_neg h, if_neg (by simpa using h)]

/-- After definitions one after the other every lookup is decided by the history of the name in the
nearest scope that binds it. -/
theorem lookup_afterDefines {store : Store} {definitions : List Definition}
    (hscopes : ∀ definition ∈ definitions, definition.scope < store.scopes.size) (id : ScopeId)
    (name : String) (args : List Value) :
    (store.afterDefines definitions).lookup id name =
        answer name ((store.nearestAfter? definitions id name).bind fun near =>
          (store.history definitions near name).getLast?) ∧
      (store.afterDefines definitions).overload id name args =
        answer name ((store.nearestAfter? definitions id name).bind fun near =>
          chosen args (store.history definitions near name)) := by
  obtain ⟨hchain, -⟩ := bindings_afterDefines hscopes id
  have hbindings := fun near => (bindings_afterDefines hscopes near).2 name
  rw [lookup_eq_answer, overload_eq_answer, nearest?, hchain, nearestAfter?]
  simp only [Scope.binds, hbindings, and_self]

/-- Once an inner scope binds a name, what the scopes farther out bind does not matter. -/
theorem lookup_eq_of_inner {store other : Store} {id inner : ScopeId} {name : String}
    {nearer farther : List ScopeId} (hchain : store.chain id = nearer ++ inner :: farther)
    (hother : other.chain id = nearer ++ inner :: farther)
    (hbinds : (store.scope inner).binds name = true)
    (hsame : ∀ near ∈ nearer ++ [inner],
      (store.scope near).bindings name = (other.scope near).bindings name) (args : List Value) :
    store.lookup id name = other.lookup id name ∧
      store.dispatch id name args = other.dispatch id name args := by
  have hnearest : ∃ near ∈ nearer ++ [inner],
      store.nearest? id name = some near ∧ other.nearest? id name = some near := by
    have hinner : (other.scope inner).binds name = true := by
      rw [Scope.binds, ← hsame inner (by simp)]
      exact hbinds
    rw [nearest?, nearest?, hchain, hother]
    clear hchain hother
    induction nearer with
    | nil => exact ⟨inner, by simp, by simp [hbinds], by simp [hinner]⟩
    | cons first rest ih =>
      have hfirst : (store.scope first).binds name = (other.scope first).binds name := by
        rw [Scope.binds, hsame first (by simp), Scope.binds]
      rw [List.cons_append, List.cons_append, List.find?_cons, List.find?_cons, ← hfirst]
      cases (store.scope first).binds name with
      | true => exact ⟨first, List.mem_cons_self, rfl, rfl⟩
      | false =>
        obtain ⟨near, hnear, hfound⟩ := ih fun near hnear =>
          hsame near (List.mem_cons_of_mem _ hnear)
        exact ⟨near, List.mem_cons_of_mem _ hnear, hfound⟩
  obtain ⟨near, hnear, hstore, hothers⟩ := hnearest
  rw [lookup_eq_answer, lookup_eq_answer, dispatch_eq_answer, dispatch_eq_answer, hstore, hothers,
    Option.bind_some, Option.bind_some, Option.bind_some, Option.bind_some, hsame near hnear]
  exact ⟨rfl, rfl⟩

/-- Defining an overload never disturbs calls that already matched. After a definition in a scope,
lookups of other names and from where another scope is the nearest one that binds the name are
unchanged. From where the scope is the nearest one the name stands for the new binding, and a call
finds what it found before when some closure in the scope matched its arguments, and the new binding
when none did. A definition that fails changes nothing. So after any sequence of definitions the
history of a name in the nearest scope that binds it decides every lookup, and what outer scopes
bind does not matter. -/
theorem definition_keeps_matched_calls (store : Store) (scope : ScopeId)
    (hscope : scope < store.scopes.size) :
    (∀ name binding after, store.define scope name binding = .ok after → ∀ id other args,
      (other ≠ name ∨ after.nearest? id name ≠ some scope →
        after.dispatch id other args = store.dispatch id other args ∧
          after.lookup id other = store.lookup id other) ∧
      (after.nearest? id name = some scope →
        after.lookup id name = .ok binding ∧
          after.overload id name args =
            if ((store.scope scope).bindings name).any (matchesArgs args) then
              store.overload id name args
            else .ok binding)) ∧
    (∀ name binding error, store.define scope name binding = .error error →
      store.afterDefine ⟨scope, name, binding⟩ = store) ∧
    (∀ name value events error after,
      (Run.define scope name value).outcome ⟨store, events⟩ = (.error error, after) →
        after = ⟨store, events⟩) ∧
    ∀ definitions : List Definition,
      (∀ definition ∈ definitions, definition.scope < store.scopes.size) → ∀ id name args,
      ((store.afterDefines definitions).lookup id name =
          answer name ((store.nearestAfter? definitions id name).bind fun near =>
            (store.history definitions near name).getLast?) ∧
        (store.afterDefines definitions).overload id name args =
          answer name ((store.nearestAfter? definitions id name).bind fun near =>
            chosen args (store.history definitions near name))) ∧
      ∀ nearer inner farther, store.chain id = nearer ++ inner :: farther →
        store.history definitions inner name ≠ [] → ∀ others : List Definition,
        (∀ definition ∈ others, definition.scope < store.scopes.size) →
        (∀ near ∈ nearer ++ [inner],
          store.history definitions near name = store.history others near name) →
        (store.afterDefines definitions).lookup id name =
            (store.afterDefines others).lookup id name ∧
          (store.afterDefines definitions).dispatch id name args =
            (store.afterDefines others).dispatch id name args := by
  refine ⟨?_, ?_, ?_, ?_⟩
  · intro name binding after hdefine id other args
    have hafter : after = store.bind scope name binding := by
      rw [define] at hdefine
      split at hdefine
      · cases hdefine
      · exact (Except.ok.inj hdefine).symm
    subst hafter
    exact ⟨lookup_bind_of_ne hscope name binding args, fun hnear =>
      ⟨(lookup_bind_self hscope name binding hnear).1,
        (lookup_bind_self hscope name binding hnear).2 args⟩⟩
  · intro name binding error hdefine
    rw [afterDefine, hdefine]
    rfl
  · intro name value events error after houtcome
    rw [Run.outcome_define] at houtcome
    split at houtcome
    · cases houtcome
    · exact (Prod.mk.inj houtcome).2.symm
  · intro definitions hscopes id name args
    refine ⟨lookup_afterDefines hscopes id name args, ?_⟩
    intro nearer inner farther hchain hinner others hothers hsame
    have hfirst := bindings_afterDefines hscopes
    have hsecond := bindings_afterDefines hothers
    refine lookup_eq_of_inner ((hfirst id).1.trans hchain) ((hsecond id).1.trans hchain) ?_ ?_ args
    · rw [Scope.binds, (hfirst inner).2]
      simpa using hinner
    · intro near hnear
      rw [(hfirst near).2, (hsecond near).2, hsame near hnear]

end Store

end AnyEngine

namespace Store

/-- A scope that binds a name to a closure for one text, and a scope inside it. -/
def textClosure : Store :=
  ⟨#[⟨[], [("f", [⟨.closure [.str "a"] none (.str "text") 0, {}⟩])]⟩, ⟨[0], []⟩]⟩

/-- A closure for anything takes over the calls from the inner scope that matched nothing and no
others. -/
theorem definition_keeps_matched_calls_of_text :
    ∃ after, textClosure.define 0 "f" ⟨.closure [.sym "x"] none (.sym "x") 0, {}⟩ = .ok after ∧
      after.overload 1 "f" [.str "a"] = textClosure.overload 1 "f" [.str "a"] ∧
      after.overload 1 "f" [.str "b"] = .ok ⟨.closure [.sym "x"] none (.sym "x") 0, {}⟩ := by
  refine ⟨_, rfl, ?_⟩
  have hkept := (definition_keeps_matched_calls textClosure 0 (by decide)).1 "f"
    ⟨.closure [.sym "x"] none (.sym "x") 0, {}⟩ _ rfl 1 "f"
  exact ⟨((hkept [.str "a"]).2 rfl).2, ((hkept [.str "b"]).2 rfl).2⟩

end Store

end ShapeLisp
