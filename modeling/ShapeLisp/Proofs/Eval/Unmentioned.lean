import ShapeLisp.Proofs.Eval.Arguments
import ShapeLisp.Proofs.Eval.Frame
import ShapeLisp.Proofs.Host.Names
import ShapeLisp.Proofs.Scope.Lookup
import ShapeLisp.Regex.Engine

/-!
# Names that are not mentioned

An evaluation sees the bindings of the names that it looks up, and it looks up symbols only. Where a
name occurs as a symbol neither in the expression nor in any value bound to another name, no symbol
of that name can turn up in the course of the evaluation, since values are made of the parts of
others. So two stores that differ in the bindings of that name only cannot be told apart.

A call may still bind the name, when a named group or the rest of the arguments goes by it. It does
so in the scope that was made for the call, in both stores alike.
-/

namespace ShapeLisp

section AnyEngine

variable [Regex.Engine]

/-! ### Scopes and stores -/

/-- Two scopes that differ at most in the bindings of one name. -/
structure Scope.SameBut (name : String) (first second : Scope) : Prop where
  /-- They have the same scopes around them. -/
  outer_eq : first.outer = second.outer
  /-- The other names have the same bindings. -/
  bindings_eq : ∀ other, other ≠ name → first.bindings other = second.bindings other

/-- The name occurs in no value that is bound to another name in the scope. -/
def Scope.Avoids (name : String) (scope : Scope) : Prop :=
  ∀ other, other ≠ name → ∀ binding ∈ scope.bindings other, binding.value.Avoids name

namespace Scope

variable {name : String} {first second : Scope}

/-- The same binding in both scopes. -/
theorem SameBut.bind (h : SameBut name first second) (bound : String) (binding : Binding) :
    SameBut name (first.bind bound binding) (second.bind bound binding) where
  outer_eq := h.outer_eq
  bindings_eq other hother := by
    by_cases hbound : other = bound
    · subst hbound
      rw [bindings_bind_self, bindings_bind_self, h.bindings_eq other hother]
    · rw [bindings_bind_of_ne hbound, bindings_bind_of_ne hbound, h.bindings_eq other hother]

/-- A binding to a value that avoids the name. -/
theorem Avoids.bind (h : first.Avoids name) (bound : String) {binding : Binding}
    (hvalue : binding.value.Avoids name) : (first.bind bound binding).Avoids name := by
  intro other hother found hmem
  by_cases hbound : other = bound
  · subst hbound
    rw [bindings_bind_self] at hmem
    rcases List.mem_append.mp hmem with hold | hnew
    · exact h other hother found hold
    · rwa [List.mem_singleton.mp hnew]
  · rw [bindings_bind_of_ne hbound] at hmem
    exact h other hother found hmem

/-- A scope without bindings. -/
theorem avoids_empty (name : String) (outer : List ScopeId) : Avoids name ⟨outer, []⟩ := by
  intro other _ binding hmem
  cases hmem

end Scope

/-- Two stores with the same scopes that differ at most in the bindings of one name. -/
structure Store.SameBut (name : String) (first second : Store) : Prop where
  /-- There are as many scopes. -/
  size_eq : first.scopes.size = second.scopes.size
  /-- Each scope differs at most in the bindings of the name. -/
  scope : ∀ id, (first.scope id).SameBut name (second.scope id)

/-- The name occurs in no value that is bound to another name. -/
def Store.Avoids (name : String) (store : Store) : Prop :=
  ∀ id, (store.scope id).Avoids name

namespace Store

variable {name : String} {first second : Store}

namespace SameBut

/-- The scopes around a scope are the same. -/
theorem chain_eq (h : SameBut name first second) (id : ScopeId) :
    first.chain id = second.chain id := by
  rw [chain, chain, (h.scope id).outer_eq]

/-- Other names have the same candidates. -/
theorem candidates?_eq (h : SameBut name first second) {other : String} (hother : other ≠ name)
    (ids : List ScopeId) : first.candidates? other ids = second.candidates? other ids :=
  candidates?_congr fun id _ => (h.scope id).bindings_eq other hother

/-- Lookups of other names find the same. -/
theorem lookup_eq (h : SameBut name first second) {other : String} (hother : other ≠ name)
    (id : ScopeId) : first.lookup id other = second.lookup id other := by
  rw [lookup, lookup, h.chain_eq id, h.candidates?_eq hother]

/-- Calls of other names choose the same. -/
theorem dispatch_eq (h : SameBut name first second) {other : String} (hother : other ≠ name)
    (id : ScopeId) (args : List Value) : first.dispatch id other args =
      second.dispatch id other args := by
  rw [dispatch, dispatch, h.chain_eq id, h.candidates?_eq hother]

/-- Other names are locked in the same scopes. -/
theorem isLocked_eq (h : SameBut name first second) {other : String} (hother : other ≠ name)
    (id : ScopeId) : first.isLocked id other = second.isLocked id other := by
  rw [isLocked, isLocked, (h.scope id).bindings_eq other hother]

/-- The same binding in both stores. -/
theorem bind (h : SameBut name first second) (id : ScopeId) (bound : String) (binding : Binding) :
    SameBut name (first.bind id bound binding) (second.bind id bound binding) where
  size_eq := by rw [size_bind, size_bind, h.size_eq]
  scope other := by
    rw [scope_bind, scope_bind, h.size_eq]
    split
    · exact (h.scope other).bind bound binding
    · exact h.scope other

/-- A new scope in both stores. -/
theorem addChild (h : SameBut name first second) (outer : ScopeId) :
    SameBut name (first.addChild outer).2 (second.addChild outer).2 where
  size_eq := by rw [size_addChild, size_addChild, h.size_eq]
  scope other := by
    rw [scope_addChild, scope_addChild, h.size_eq, h.chain_eq outer]
    split
    · exact ⟨rfl, fun _ _ => rfl⟩
    · exact h.scope other

end SameBut

/-- A binding to a value that avoids the name. -/
theorem Avoids.bind (h : first.Avoids name) (id : ScopeId) (bound : String) {binding : Binding}
    (hvalue : binding.value.Avoids name) : (first.bind id bound binding).Avoids name := by
  intro other
  rw [scope_bind]
  split
  · exact (h other).bind bound hvalue
  · exact h other

/-- A new scope has no bindings. -/
theorem Avoids.addChild (h : first.Avoids name) (outer : ScopeId) :
    (first.addChild outer).2.Avoids name := by
  intro other
  rw [scope_addChild]
  split
  · exact Scope.avoids_empty name _
  · exact h other

/-- What a lookup of another name finds avoids the name. -/
theorem Avoids.lookup (h : first.Avoids name) {other : String} (hother : other ≠ name)
    {id : ScopeId} {binding : Binding} (hfound : first.lookup id other = .ok binding) :
    binding.value.Avoids name := by
  obtain ⟨near, hmem⟩ := exists_mem_of_lookup hfound
  exact h near other hother binding hmem

/-- The value that a lookup of another name finds avoids the name. -/
theorem Avoids.value_lookup (h : first.Avoids name) {other : String} (hother : other ≠ name)
    {id : ScopeId} {value : Value}
    (hfound : (first.lookup id other).map Binding.value = .ok value) : value.Avoids name := by
  cases hlookup : first.lookup id other with
  | error error =>
    rw [hlookup] at hfound
    cases hfound
  | ok binding =>
    rw [hlookup] at hfound
    obtain rfl := Except.ok.inj hfound
    exact h.lookup hother hlookup

end Store

/-! ### Runs in two worlds -/

/-- Two worlds that differ at most in the bindings of one name, which no other value mentions. The
scopes from a number on are the same. -/
structure World.SameBut (name : String) (start : Nat) (first second : World) : Prop where
  /-- The same has happened in both. -/
  events_eq : first.events = second.events
  /-- The stores differ at most in the bindings of the name. -/
  store : first.store.SameBut name second.store
  /-- The name occurs in no value that is bound to another name. -/
  avoids : first.store.Avoids name
  /-- The scopes that were added are the same. -/
  added_eq : ∀ id, start ≤ id → first.store.scope id = second.store.scope id

namespace World.SameBut

variable {name : String} {start : Nat} {first second : World}

/-- The same event in both worlds. -/
theorem emit (h : SameBut name start first second) (event : Event) :
    SameBut name start ⟨first.store, first.events.push event⟩
      ⟨second.store, second.events.push event⟩ where
  events_eq := by rw [h.events_eq]
  store := h.store
  avoids := h.avoids
  added_eq := h.added_eq

/-- The same binding in both worlds. -/
theorem bind (h : SameBut name start first second) (id : ScopeId) (bound : String) {value : Value}
    (hvalue : value.Avoids name) :
    SameBut name start ⟨first.store.bind id bound ⟨value, {}⟩, first.events⟩
      ⟨second.store.bind id bound ⟨value, {}⟩, second.events⟩ where
  events_eq := h.events_eq
  store := h.store.bind id bound _
  avoids := h.avoids.bind id bound hvalue
  added_eq other hother := by
    rw [Store.scope_bind, Store.scope_bind, h.store.size_eq, h.added_eq other hother]

/-- A new scope in both worlds. -/
theorem addChild (h : SameBut name start first second) (outer : ScopeId) :
    SameBut name start ⟨(first.store.addChild outer).2, first.events⟩
      ⟨(second.store.addChild outer).2, second.events⟩ where
  events_eq := h.events_eq
  store := h.store.addChild outer
  avoids := h.avoids.addChild outer
  added_eq other hother := by
    rw [Store.scope_addChild, Store.scope_addChild, h.store.size_eq, h.store.chain_eq outer,
      h.added_eq other hother]

end World.SameBut

/-- Outcomes with the same value, of which a condition is known, or the same error, in worlds that
differ at most in the bindings of one name. -/
inductive SameButName (name : String) (start : Nat) {α : Type} (Post : α → Prop) :
    Except Error α × World → Except Error α × World → Prop where
  /-- The same value. -/
  | value {a : α} {first second : World} : Post a → first.SameBut name start second →
    SameButName name start Post (.ok a, first) (.ok a, second)
  /-- The same error. -/
  | error {error : Error} {first second : World} : first.SameBut name start second →
    SameButName name start Post (.error error, first) (.error error, second)

namespace SameButName

variable {name : String} {start : Nat} {α : Type} {Post : α → Prop}

/-- A result that is the same in both worlds. -/
theorem of_result {result : Except Error α} {first second : World}
    (h : first.SameBut name start second) (hresult : ∀ a, result = .ok a → Post a) :
    SameButName name start Post (result, first) (result, second) := by
  cases result with
  | ok a => exact .value (hresult a rfl) h
  | error error => exact .error h

/-- What outcomes have in common that are the same but for the bindings of a name. -/
theorem parts {left right : Except Error α × World} (h : SameButName name start Post left right) :
    left.1 = right.1 ∧ left.2.SameBut name start right.2 ∧ ∀ a, left.1 = .ok a → Post a := by
  cases h with
  | value ha hworlds =>
    refine ⟨rfl, hworlds, fun b hb => ?_⟩
    obtain rfl := Except.ok.inj hb
    exact ha
  | error hworlds => exact ⟨rfl, hworlds, fun b hb => by cases hb⟩

end SameButName

/-- The run does not depend on the bindings of a name, and what it returns meets a condition. -/
def Run.Ignores (name : String) (start : Nat) {α : Type} (Post : α → Prop) (run : Run α) : Prop :=
  ∀ first second : World, first.SameBut name start second →
    SameButName name start Post (run.outcome first) (run.outcome second)

namespace Run.Ignores

variable {name : String} {start : Nat} {α β : Type} {Post : α → Prop}

/-- Going on with a result. -/
theorem ofResult {result : Except Error α} (h : ∀ a, result = .ok a → Post a) :
    Ignores name start Post (Run.ofResult result) := by
  intro first second hworlds
  rw [outcome_ofResult, outcome_ofResult]
  exact .of_result hworlds h

/-- Returning a value. -/
theorem returns {a : α} (ha : Post a) : Ignores name start Post (pure a) :=
  fun _ _ h => .value ha h

/-- Raising an error. -/
theorem fails (error : Error) : Ignores name start Post (throw error) :=
  fun _ _ h => .error h

/-- One run after another. -/
theorem bind {run : Run α} {next : α → Run β} {Mid : α → Prop} {Post : β → Prop}
    (hrun : Ignores name start Mid run) (hnext : ∀ a, Mid a → Ignores name start Post (next a)) :
    Ignores name start Post (run >>= next) := by
  intro first second h
  have hsame := hrun first second h
  rw [outcome_bind, outcome_bind]
  generalize run.outcome first = left at hsame ⊢
  generalize run.outcome second = right at hsame ⊢
  cases hsame with
  | value ha hworlds => exact hnext _ ha _ _ hworlds
  | error hworlds => exact .error hworlds

/-- Changing errors. -/
theorem mapError {run : Run α} (hrun : Ignores name start Post run) (change : Error → Error) :
    Ignores name start Post (Run.mapError change run) := by
  intro first second h
  have hsame := hrun first second h
  rw [outcome_mapError, outcome_mapError]
  generalize run.outcome first = left at hsame ⊢
  generalize run.outcome second = right at hsame ⊢
  cases hsame with
  | value ha hworlds => exact .value ha hworlds
  | error hworlds => exact .error hworlds

/-- Going on with what the world answers, when both worlds answer the same. -/
theorem ofWorld {next : World → Run α}
    (h : ∀ first second : World, first.SameBut name start second →
      next first = next second ∧ Ignores name start Post (next first)) :
    Ignores name start Post (get >>= next) := by
  intro first second hworlds
  obtain ⟨hnext, hrun⟩ := h first second hworlds
  change SameButName name start Post ((next first).outcome first) ((next second).outcome second)
  rw [← hnext]
  exact hrun first second hworlds

/-- Noting an event. -/
theorem emit (event : Event) : Ignores name start (fun _ => True) (Run.emit event) :=
  fun _ _ h => .value trivial (h.emit event)

/-- Noting events in order. -/
theorem emitAll (events : List Event) :
    Ignores name start (fun _ => True) (Run.emitAll events) := by
  induction events with
  | nil => exact returns trivial
  | cons event rest ih => exact (emit event).bind fun _ _ => ih

/-- Looking up another name. -/
theorem lookup {scope : ScopeId} {other : String} (hother : other ≠ name) :
    Ignores name start (fun binding => binding.value.Avoids name) (Run.lookup scope other) := by
  intro first second h
  rw [outcome_lookup, outcome_lookup, ← h.store.lookup_eq hother]
  exact .of_result h fun binding hfound => h.avoids.lookup hother hfound

/-- Calling another name. -/
theorem dispatch {scope : ScopeId} {other : String} (hother : other ≠ name) (args : List Value) :
    Ignores name start (fun binding => binding.value.Avoids name)
      (Run.dispatch scope other args) := by
  intro first second h
  rw [outcome_dispatch, outcome_dispatch, ← h.store.dispatch_eq hother]
  cases hfound : first.store.dispatch scope other args with
  | error error => exact .error h
  | ok found =>
    obtain ⟨near, hmem⟩ := Store.exists_mem_of_dispatch hfound
    exact .value (h.avoids near other hother found.1 hmem) (h.emit _)

/-- Defining another name. -/
theorem define {scope : ScopeId} {other : String} (hother : other ≠ name) {value : Value}
    (hvalue : value.Avoids name) :
    Ignores name start (fun _ => True) (Run.define scope other value) := by
  intro first second h
  rw [outcome_define, outcome_define, Store.define, Store.define, ← h.store.isLocked_eq hother]
  cases first.store.isLocked scope other with
  | true => exact .error h
  | false => exact .value trivial (h.bind scope other hvalue)

/-- Making a scope. -/
theorem newScope {outer : ScopeId} :
    Ignores name start (fun _ => True) (Run.newScope outer) := by
  intro first second h
  rw [outcome_newScope, outcome_newScope, h.store.size_eq]
  exact .value trivial (h.addChild outer)

/-- Binding names, whatever they are. -/
theorem bindAll (scope : ScopeId) {bindings : List (String × Value)}
    (h : ∀ entry ∈ bindings, entry.2.Avoids name) :
    Ignores name start (fun _ => True) (Run.bindAll scope bindings) := by
  induction bindings with
  | nil => exact returns trivial
  | cons entry rest ih =>
    have hentry : Ignores name start (fun _ => True) (Run.bind scope entry.1 entry.2) :=
      fun _ _ hworlds => .value trivial (hworlds.bind scope entry.1 (h entry List.mem_cons_self))
    exact hentry.bind fun _ _ => ih fun other hmem => h other (List.mem_cons_of_mem _ hmem)

end Run.Ignores

/-! ### Calls -/

section Calls

variable {name : String} {start : Nat} {args : List Value}

/-- Binding the arguments of a call, whatever the names are that they are bound to. -/
theorem ignores_bindArguments (scope : ScopeId) (params : List Value) (rest : Option String)
    (h : ∀ arg ∈ args, arg.Avoids name) :
    Run.Ignores name start (fun _ => True) (bindArguments scope params rest args) := by
  have hnil : Value.nil.Avoids name := rfl
  have htext : ∀ text, (Value.str text).Avoids name := fun _ => rfl
  unfold bindArguments
  split
  · next bindings hmatch =>
    exact .bindAll scope (forall_matchedBindings htext Value.avoids_list h hmatch)
  · exact (Run.Ignores.emit _).bind fun _ _ =>
      .bindAll scope (forall_positionalBindings hnil Value.avoids_list params rest h)

/-- Calling a builtin of a host that is not concerned with the name. -/
theorem Stage.ignores_builtin (stage : Stage) (hhost : stage.interpreter.host.Ignores name)
    (id : String) (scope : ScopeId) (h : ∀ arg ∈ args, arg.Avoids name) :
    Run.Ignores name start (Value.Avoids name)
      (stage.applyCallable (.builtin id) args scope) := by
  refine (Run.Ignores.emit _).bind fun _ _ => ?_
  cases hfound : stage.interpreter.host.operation? id with
  | none => exact .fails _
  | some operation =>
    have hoperation := hhost.operation? hfound
    apply Run.Ignores.ofWorld
    intro first second hworlds
    have hsame : ∀ other, other ≠ name → (first.store.lookup scope other).map Binding.value =
        (second.store.lookup scope other).map Binding.value := fun other hother => by
      rw [hworlds.store.lookup_eq hother]
    have hbound : ∀ other, other ≠ name → ∀ found,
        (first.store.lookup scope other).map Binding.value = .ok found → found.Avoids name :=
      fun other hother found hlookup => hworlds.avoids.value_lookup hother hlookup
    have hreply := hoperation.same _ _ args hsame hbound h
    constructor
    · simp only [hreply]
    · exact (Run.Ignores.emitAll _).bind fun _ _ =>
        .ofResult fun value hvalue => hoperation.avoids _ args value hbound h hvalue

/-- The body of a function avoids a name when its forms do, unless the name is that of sequences,
which a body of several forms is made with. -/
theorem avoids_bodyOf {forms : List Value} (hbegin : name ≠ "begin")
    (h : ∀ form ∈ forms, form.Avoids name) : (Form.bodyOf forms).Avoids name := by
  unfold Form.bodyOf
  split
  · next form => exact h form List.mem_cons_self
  · exact Value.avoids_list.mpr
      (List.forall_mem_cons.mpr ⟨Value.avoids_sym.mpr hbegin.symm, h⟩)

end Calls

/-! ### Evaluation -/

/-- The logic of not depending on a name. Values are good when the name does not occur in them. -/
def namesLogic (interpreter : Interpreter) (name : String) (start : Nat) (hbegin : name ≠ "begin")
    (hhost : interpreter.host.Ignores name) : RunLogic Unit where
  interpreter _ := interpreter
  Good _ value := value.Avoids name
  Holds n _ _ Post run := (run ()).Ignores name start (Post n)
  good_mono _ h := h
  good_list := Value.avoids_list
  good_quoted := Value.avoids_quoted.mp
  good_data := Value.IsData.avoids
  returns := .returns
  bind hrun hnext := hrun.bind fun a ha => hnext _ (Nat.le_refl _) a ha
  fail _ := .fails _
  malformed _ := .fails _
  emit := .emit
  lookup hname := .lookup (Value.avoids_sym.mp hname)
  dispatch hname _ := .dispatch (Value.avoids_sym.mp hname) _
  define hname hvalue := .define (Value.avoids_sym.mp hname) hvalue
  closure hformals hbody _ :=
    .returns (Value.avoids_closure.mpr ⟨hformals, avoids_bodyOf hbegin hbody⟩)
  builtin _ hargs := Stage.ignores_builtin _ hhost _ _ hargs
  -- the call may bind the name itself, in the scope that was just made and so in both stores alike
  call hclosure hargs hrun := Run.Ignores.newScope.bind fun inner _ =>
    (ignores_bindArguments inner _ _ hargs).bind fun _ _ =>
      (hrun _ (Nat.le_refl _) inner (Value.avoids_closure.mp hclosure).2).mapError _
  child hrun := Run.Ignores.newScope.bind fun inner _ => hrun _ (Nat.le_refl _) inner
  context _ hrun := hrun.mapError _

/-- Stores that differ at most in the bindings of a name have no scopes after their last, so those
are the same. -/
theorem Store.SameBut.scope_eq_of_size_le {name : String} {first second : Store}
    (h : first.SameBut name second) {id : ScopeId} (hid : first.scopes.size ≤ id) :
    first.scope id = second.scope id := by
  have hfirst : first.scopes[id]? = none := Array.getElem?_eq_none hid
  have hsecond : second.scopes[id]? = none := Array.getElem?_eq_none (h.size_eq ▸ hid)
  rw [Store.scope, Store.scope, Array.getD_eq_getD_getElem?, Array.getD_eq_getD_getElem?, hfirst,
    hsecond]

/-- The bindings of a name that is not mentioned are invisible. Let two stores differ at most in the
bindings of one name, other than the name of sequences, and let the name occur as a symbol neither
in the expression nor in any value that is bound to another name. Then the evaluation of the
expression in the two stores, in any scope and at any depth, gives the same value or the same error
and leaves the same events; the stores that it leaves differ at most in the bindings of the name,
and the scopes that it made are the same. In the end, too, the name occurs neither in the value nor
in what other names are bound to, so the same can be said of the next evaluation.

The standard functions can always be called; functions that are added to them must themselves not
be concerned with the name. -/
theorem unmentioned_name_invisible (host : Host) (name : String) (depth : Nat) (expr : Value)
    (scope : ScopeId) (first second : Store) (events : Array Event)
    (hhost : host.Ignores name) (hbegin : name ≠ "begin") (hstores : first.SameBut name second)
    (hbound : first.Avoids name) (hexpr : expr.Avoids name) :
    let run := (Interpreter.standard (Standard.host ++ host)).evalAt depth expr scope
    let left := run.outcome ⟨first, events⟩
    let right := run.outcome ⟨second, events⟩
    left.1 = right.1 ∧ left.2.events = right.2.events ∧
    left.2.store.SameBut name right.2.store ∧
    (∀ id, first.scopes.size ≤ id → left.2.store.scope id = right.2.store.scope id) ∧
    left.2.store.Avoids name ∧ ∀ value, left.1 = .ok value → value.Avoids name := by
  have hall : Host.Ignores name (Standard.host ++ host) := fun registration hmem =>
    (List.mem_append.mp hmem).elim (Standard.host_ignores name registration) (hhost registration)
  let L := namesLogic (.standard (Standard.host ++ host)) name first.scopes.size hbegin hall
  have hrun : L.Holds 0 scope L.Good fun _ =>
      (Interpreter.standard (Standard.host ++ host)).evalAt depth expr scope :=
    RunLogic.evalAt_holds depth hexpr
  obtain ⟨hresult, hworlds, hvalue⟩ := (hrun ⟨first, events⟩ ⟨second, events⟩
    ⟨rfl, hstores, hbound, fun id hid => hstores.scope_eq_of_size_le hid⟩).parts
  exact ⟨hresult, hworlds.events_eq, hworlds.store, hworlds.added_eq, hworlds.avoids, hvalue⟩

end AnyEngine

/-- A scope that binds a closure which keeps its arguments as a tail, and the name of the tail to
whatever is given. -/
def tailScope (bindings : List Binding) : Scope :=
  ⟨[], [(Shape.tailName, bindings),
    ("f", [⟨.closure [.sym "...", .str "a"] none (.str "kept") 0, {}⟩])]⟩

/-- Other names than that of the tail have the bindings that they have without it. -/
theorem bindings_tailScope (bindings : List Binding) {other : String}
    (hother : other ≠ Shape.tailName) : (tailScope bindings).bindings other =
      if "f" = other then [⟨.closure [.sym "...", .str "a"] none (.str "kept") 0, {}⟩] else [] := by
  rw [tailScope, Scope.bindings, Keyed.find?, if_neg hother.symm, Keyed.find?]
  split <;> rfl

/-- The scopes differ at most in the bindings of the name of the tail. -/
theorem sameBut_tailScope (bindings others : List Binding) :
    Store.SameBut Shape.tailName ⟨#[tailScope bindings]⟩ ⟨#[tailScope others]⟩ where
  size_eq := rfl
  scope id := by
    cases id with
    | succ id => exact ⟨rfl, fun _ _ => rfl⟩
    | zero => exact ⟨rfl, fun other hother =>
        (bindings_tailScope bindings hother).trans (bindings_tailScope others hother).symm⟩

/-- The closure does not mention the name of the tail. -/
theorem avoids_tailScope (bindings : List Binding) :
    Store.Avoids Shape.tailName ⟨#[tailScope bindings]⟩ := by
  intro id other hother binding hmem
  cases id with
  | succ id => cases hmem
  | zero =>
    change binding ∈ (tailScope bindings).bindings other at hmem
    rw [bindings_tailScope bindings hother] at hmem
    split at hmem
    · rw [List.mem_singleton.mp hmem]
      rfl
    · cases hmem

/-- A call binds the name of the tail in its own scope. What the name is bound to around it, whether
locked or not bound at all, is not seen. -/
theorem unmentioned_name_invisible_of_tail :
    let run := (Interpreter.standard (Standard.host ++ [])).evalAt 0
      (.list [.sym "f", .str "a", .str "b"]) 0
    let hidden := run.outcome ⟨⟨#[tailScope [⟨.str "hidden", ⟨false, true⟩⟩]]⟩, #[]⟩
    let free := run.outcome ⟨⟨#[tailScope []]⟩, #[]⟩
    hidden.1 = .ok (.str "kept") ∧ hidden.1 = free.1 ∧
    (free.2.store.scope 1).bindings Shape.tailName = [⟨.list [.str "a"], {}⟩] ∧
    hidden.2.store.scope 1 = free.2.store.scope 1 := by
  obtain ⟨hresult, -, -, hadded, -⟩ := unmentioned_name_invisible [] Shape.tailName 0
    (.list [.sym "f", .str "a", .str "b"]) 0 ⟨#[tailScope [⟨.str "hidden", ⟨false, true⟩⟩]]⟩
    ⟨#[tailScope []]⟩ #[] (List.forall_mem_nil _) (by decide) (sameBut_tailScope _ _)
    (avoids_tailScope _) rfl
  exact ⟨rfl, hresult, rfl, hadded 1 (by decide)⟩

end ShapeLisp
