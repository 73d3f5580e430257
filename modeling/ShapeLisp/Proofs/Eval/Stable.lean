import ShapeLisp.Proofs.Eval.Lock

/-!
# Conditions that evaluations keep

Evaluations change a store in two ways only: they make scopes inside others, and they add bindings.
So a condition on stores that new scopes and new bindings keep is kept by every evaluation, whether
it returns a value or fails, and by whatever a session is asked to do.
-/

namespace ShapeLisp

variable [Regex.Engine]

/-- A condition on stores that is kept when a scope is made inside another and when a binding is
added. -/
structure Store.Stable (P : Store → Prop) : Prop where
  /-- A scope may be made inside another. -/
  addChild : ∀ {store : Store} (outer : ScopeId), P store → P (store.addChild outer).2
  /-- A binding may be added. -/
  bind : ∀ {store : Store} (id : ScopeId) (name : String) (binding : Binding), P store →
    P (store.bind id name binding)

/-- A definition that is not refused adds a binding. -/
theorem Store.Stable.define {P : Store → Prop} (hP : Stable P) {store after : Store}
    {id : ScopeId} {name : String} {binding : Binding} (h : P store)
    (hdefine : store.define id name binding = .ok after) : P after := by
  rw [Store.define] at hdefine
  split at hdefine
  · cases hdefine
  · obtain rfl := Except.ok.inj hdefine
    exact hP.bind id name binding h

namespace Run

variable {α β : Type} {P : Store → Prop}

/-- The run keeps a condition on the store. -/
def Preserves (P : Store → Prop) (run : Run α) : Prop :=
  ∀ world : World, P world.store → P (run.outcome world).2.store

namespace Preserves

/-- A run that leaves the store alone. -/
theorem of_store_eq {run : Run α} (h : ∀ world, (run.outcome world).2.store = world.store) :
    Preserves P run := by
  intro world hworld
  rw [h world]
  exact hworld

/-- One run after another, when the second is known to keep the condition for what the first
returns. -/
theorem bind_of_returns {run : Run α} {next : α → Run β} {Mid : α → Prop}
    (hrun : Preserves P run) (hmid : run.Returns Mid)
    (hnext : ∀ a, Mid a → Preserves P (next a)) : Preserves P (run >>= next) := by
  intro world hworld
  have hfirst := hrun world hworld
  have hreturned := hmid world
  rw [outcome_bind]
  generalize run.outcome world = outcome at hfirst hreturned ⊢
  obtain ⟨result, after⟩ := outcome
  cases result with
  | error error => exact hfirst
  | ok a => exact hnext a (hreturned a rfl) after hfirst

/-- One run after another. -/
theorem bind {run : Run α} {next : α → Run β} (hrun : Preserves P run)
    (hnext : ∀ a, Preserves P (next a)) : Preserves P (run >>= next) :=
  hrun.bind_of_returns run.returns_true fun a _ => hnext a

/-- Changing errors changes nothing in the store. -/
theorem mapError {run : Run α} (change : Error → Error) (hrun : Preserves P run) :
    Preserves P (Run.mapError change run) := by
  intro world hworld
  have hfirst := hrun world hworld
  rw [outcome_mapError]
  generalize run.outcome world = outcome at hfirst ⊢
  obtain ⟨result, after⟩ := outcome
  cases result <;> exact hfirst

end Preserves

section Primitives

variable (hP : Store.Stable P)

include hP

/-- A definition adds a binding, or fails and leaves the store alone. -/
theorem preserves_define (scope : ScopeId) (name : String) (value : Value) :
    Preserves P (define scope name value) := by
  intro world hworld
  rw [outcome_define]
  split
  · next store hdefine => exact hP.define hworld hdefine
  · exact hworld

/-- Binding names one after the other adds bindings. -/
theorem preserves_bindAll (scope : ScopeId) (bindings : List (String × Value)) :
    Preserves P (bindAll scope bindings) := by
  induction bindings with
  | nil => exact .of_store_eq fun _ => rfl
  | cons binding rest ih =>
    have hbind : Preserves P (Run.bind scope binding.1 binding.2) := fun world hworld =>
      hP.bind scope binding.1 ⟨binding.2, {}⟩ hworld
    exact hbind.bind fun _ => ih

/-- Arguments are bound by adding bindings. -/
theorem preserves_bindArguments (scope : ScopeId) (params : List Value) (rest : Option String)
    (args : List Value) : Preserves P (bindArguments scope params rest args) := by
  unfold bindArguments
  split
  · exact preserves_bindAll hP scope _
  · exact Preserves.bind (.of_store_eq fun _ => rfl) fun _ => preserves_bindAll hP scope _

/-- A new scope is made inside another. -/
theorem preserves_newScope (outer : ScopeId) : Preserves P (newScope outer) :=
  fun _ hworld => hP.addChild outer hworld

end Primitives

end Run

/-- The logic of keeping a condition on stores. Nothing is asked of values. -/
def stableLogic (interpreter : Interpreter) {P : Store → Prop} (hP : Store.Stable P) :
    RunLogic Unit where
  interpreter _ := interpreter
  Good _ _ := True
  Holds n _ _ Post run := (run ()).Preserves P ∧ (run ()).Returns (Post n)
  good_mono _ _ := trivial
  good_list := RunLogic.anything_list _
  good_quoted _ := trivial
  good_data _ := trivial
  returns h := ⟨.of_store_eq fun _ => rfl, Run.returns_pure h⟩
  bind hrun hnext :=
    ⟨hrun.1.bind_of_returns hrun.2 fun a ha => (hnext _ (Nat.le_refl _) a ha).1,
      hrun.2.bind fun a ha => (hnext _ (Nat.le_refl _) a ha).2⟩
  fail _ := ⟨.of_store_eq fun _ => rfl, Run.returns_throw _ _⟩
  malformed _ := ⟨.of_store_eq fun _ => rfl, Run.returns_throw _ _⟩
  emit _ := ⟨.of_store_eq fun _ => rfl, Run.returns_true _⟩
  lookup _ := ⟨.of_store_eq fun _ => by rw [Run.outcome_lookup], Run.returns_true _⟩
  dispatch _ _ := ⟨.of_store_eq fun world => by
    rw [Run.outcome_dispatch]
    split <;> rfl, Run.returns_true _⟩
  define _ _ := ⟨Run.preserves_define hP _ _ _, Run.returns_true _⟩
  closure _ _ _ := ⟨.of_store_eq fun _ => rfl, Run.returns_true _⟩
  builtin _ _ := ⟨.of_store_eq fun world => Stage.store_outcome_builtin .., Run.returns_true _⟩
  call _ _ hrun := ⟨(Run.preserves_newScope hP _).bind fun inner =>
    (Run.preserves_bindArguments hP inner _ _ _).bind fun _ =>
      (hrun _ (Nat.le_refl _) inner trivial).1.mapError _, Run.returns_true _⟩
  child hrun := ⟨(Run.preserves_newScope hP _).bind fun inner =>
    (hrun _ (Nat.le_refl _) inner).1,
    Run.Returns.bind_of_forall fun inner => (hrun _ (Nat.le_refl _) inner).2⟩
  context _ hrun := ⟨hrun.1.mapError _, hrun.2.mapError _⟩

namespace Store.Stable

variable {P : Store → Prop} (hP : Stable P)

include hP

/-- Every evaluation, at any depth and in any scope, keeps the condition. -/
theorem preserves_evalAt (interpreter : Interpreter) (depth : Nat) (expr : Value)
    (scope : ScopeId) : (interpreter.evalAt depth expr scope).Preserves P := by
  have hexpr : (stableLogic interpreter hP).Holds 0 scope (stableLogic interpreter hP).Good
      fun _ => interpreter.evalAt depth expr scope := RunLogic.evalAt_holds depth trivial
  exact hexpr.1

/-- Bindings that are added one after the other. -/
theorem bindEach {α : Type} (name : α → String) (binding : α → Binding) (id : ScopeId)
    (entries : List α) {store : Store} (h : P store) :
    P (entries.foldl (fun store entry => store.bind id (name entry) (binding entry)) store) := by
  induction entries generalizing store with
  | nil => exact h
  | cons entry rest ih => exact ih (hP.bind id (name entry) (binding entry) h)

/-- The functions of a host are added as bindings. -/
theorem register (host : Host) (id : ScopeId) {store : Store} (h : P store) :
    P (host.register id store) :=
  hP.bindEach Registration.name
    (fun registration => ⟨.builtin registration.name, registration.options⟩) id host h

/-- An action of a session. -/
theorem perform {session : Session} (h : P session.store) (action : Session.Action) :
    P (session.perform action).store := by
  cases action with
  | evaluate environment expr =>
    exact hP.preserves_evalAt session.interpreter 0 expr (session.scope environment)
      ⟨session.store, #[]⟩ h
  | define environment name value options =>
    rw [Session.perform, Session.define_eq]
    cases hdefine : session.store.define (session.scope environment) name ⟨value, options⟩ with
    | ok after => exact hP.define h hdefine
    | error error => exact h
  | child environment => exact hP.addChild (session.scope environment) h
  | adopt scope => exact h

/-- Actions in order. -/
theorem performAll {session : Session} (h : P session.store) (actions : List Session.Action) :
    P (session.performAll actions).store := by
  induction actions generalizing session with
  | nil => exact h
  | cons action rest ih => exact ih (hP.perform h action)

end Store.Stable

end ShapeLisp
