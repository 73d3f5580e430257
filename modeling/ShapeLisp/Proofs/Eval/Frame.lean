import ShapeLisp.Proofs.Eval.LogicRules
import ShapeLisp.Proofs.Scope.Store

/-!
# Evaluation touches its own scope only

An evaluation in a scope may add bindings to that scope and may make new scopes. Every other scope
that existed before is left exactly as it was, and in the scope itself the bindings of every name
only grow at their end. A call of a function leaves all existing scopes as they were, the scope
that the function was made in included.
-/

namespace ShapeLisp

variable [Regex.Engine]

/-- A store after work in one of its scopes: scopes may have been added, the scope may have got
bindings, and nothing else has changed. -/
structure Store.GrowsAt (scope : ScopeId) (before after : Store) : Prop where
  /-- No scope is lost. -/
  size_le : before.scopes.size ≤ after.scopes.size
  /-- The other scopes are as they were. -/
  other : ∀ id < before.scopes.size, id ≠ scope → after.scope id = before.scope id
  /-- The scope has the scopes around it that it had. -/
  outer : scope < before.scopes.size → (after.scope scope).outer = (before.scope scope).outer
  /-- In the scope every name has the bindings that it had, with new ones after them. -/
  grown : scope < before.scopes.size → ∀ name,
    (before.scope scope).bindings name <+: (after.scope scope).bindings name

/-- A store in which every existing scope is as it was. -/
structure Store.Keeps (before after : Store) : Prop where
  /-- No scope is lost. -/
  size_le : before.scopes.size ≤ after.scopes.size
  /-- Every scope is as it was. -/
  same : ∀ id < before.scopes.size, after.scope id = before.scope id

namespace Store

/-- A store that keeps all scopes keeps one and may only have grown at it. -/
theorem Keeps.growsAt {before after : Store} (h : Keeps before after) (scope : ScopeId) :
    GrowsAt scope before after where
  size_le := h.size_le
  other id hid _ := h.same id hid
  outer hscope := by rw [h.same scope hscope]
  grown hscope name := ⟨[], by rw [List.append_nil, h.same scope hscope]⟩

namespace GrowsAt

variable {scope : ScopeId} {before middle after : Store}

/-- Doing nothing. -/
theorem refl (scope : ScopeId) (store : Store) : GrowsAt scope store store :=
  Keeps.growsAt ⟨Nat.le_refl _, fun _ _ => rfl⟩ scope

/-- One piece of work after another. -/
theorem trans (first : GrowsAt scope before middle) (second : GrowsAt scope middle after) :
    GrowsAt scope before after where
  size_le := Nat.le_trans first.size_le second.size_le
  other id hid hne := by
    rw [second.other id (Nat.lt_of_lt_of_le hid first.size_le) hne, first.other id hid hne]
  outer hscope := by
    rw [second.outer (Nat.lt_of_lt_of_le hscope first.size_le), first.outer hscope]
  grown hscope name :=
    (first.grown hscope name).trans
      (second.grown (Nat.lt_of_lt_of_le hscope first.size_le) name)

/-- Binding a name in the scope. -/
theorem bind (store : Store) (scope : ScopeId) (name : String) (binding : Binding) :
    GrowsAt scope store (store.bind scope name binding) where
  size_le := Nat.le_of_eq (store.size_bind scope name binding).symm
  other id _ hne := store.scope_bind_of_ne hne name binding
  outer hscope := by rw [store.scope_bind_self hscope, Scope.outer_bind]
  grown hscope other := by
    rw [store.scope_bind_self hscope]
    exact Scope.bindings_prefix_bind ..

/-- Work in a scope that was made for it keeps all scopes that existed before. -/
theorem keeps_of_addChild {store after : Store} {outer : ScopeId}
    (h : GrowsAt store.scopes.size (store.addChild outer).2 after) : Keeps store after where
  size_le := by
    have hsize := h.size_le
    rw [size_addChild] at hsize
    omega
  same id hid := by
    have hlt : id < (store.addChild outer).2.scopes.size := by
      rw [size_addChild]
      omega
    rw [h.other id hlt (Nat.ne_of_lt hid), store.scope_addChild_of_lt outer hid]

end GrowsAt

end Store

namespace Run

variable {α β : Type}

/-- The run changes the store only as work in the scope may. -/
def WorksIn (scope : ScopeId) (run : Run α) : Prop :=
  ∀ world : World, world.store.GrowsAt scope (run.outcome world).2.store

/-- The run leaves every existing scope as it was. -/
def KeepsScopes (run : Run α) : Prop :=
  ∀ world : World, world.store.Keeps (run.outcome world).2.store

/-- A run that leaves the store alone. -/
theorem WorksIn.of_store_eq {scope : ScopeId} {run : Run α}
    (h : ∀ world, (run.outcome world).2.store = world.store) : WorksIn scope run := by
  intro world
  rw [h world]
  exact .refl scope world.store

/-- One run after another, when the second is known to work for what the first returns. -/
theorem WorksIn.bind_of_returns {scope : ScopeId} {run : Run α} {next : α → Run β}
    {Mid : α → Prop} (hrun : WorksIn scope run) (hmid : run.Returns Mid)
    (hnext : ∀ a, Mid a → WorksIn scope (next a)) : WorksIn scope (run >>= next) := by
  intro world
  have hfirst := hrun world
  have hreturned := hmid world
  rw [outcome_bind]
  generalize run.outcome world = outcome at hfirst hreturned ⊢
  obtain ⟨result, after⟩ := outcome
  cases result with
  | error error => exact hfirst
  | ok a => exact hfirst.trans (hnext a (hreturned a rfl) after)

/-- One run after another. -/
theorem WorksIn.bind {scope : ScopeId} {run : Run α} {next : α → Run β}
    (hrun : WorksIn scope run) (hnext : ∀ a, WorksIn scope (next a)) :
    WorksIn scope (run >>= next) :=
  hrun.bind_of_returns run.returns_true fun a _ => hnext a

/-- Changing errors changes nothing in the store. -/
theorem WorksIn.mapError {scope : ScopeId} {run : Run α} (change : Error → Error)
    (hrun : WorksIn scope run) : WorksIn scope (Run.mapError change run) := by
  intro world
  have hfirst := hrun world
  rw [outcome_mapError]
  generalize run.outcome world = outcome at hfirst ⊢
  obtain ⟨result, after⟩ := outcome
  cases result <;> exact hfirst

/-- Binding names one after the other works in their scope. -/
theorem worksIn_bindAll (scope : ScopeId) (bindings : List (String × Value)) :
    WorksIn scope (bindAll scope bindings) := by
  induction bindings with
  | nil => exact .of_store_eq fun _ => rfl
  | cons binding rest ih =>
    exact WorksIn.bind (fun world => .bind world.store scope binding.1 ⟨binding.2, {}⟩) fun _ => ih

/-- Defining a name works in its scope, or fails and leaves the store alone. -/
theorem worksIn_define (scope : ScopeId) (name : String) (value : Value) :
    WorksIn scope (define scope name value) := by
  intro world
  change world.store.GrowsAt scope ((if world.store.isLocked scope name then
    fail (.locked name) else Run.bind scope name value : Run Unit).outcome world).2.store
  split
  · exact .refl scope world.store
  · exact .bind world.store scope name ⟨value, {}⟩

/-- Running in a new scope keeps all scopes when the work is in the new scope. -/
theorem keepsScopes_newScope {outer : ScopeId} {run : ScopeId → Run α}
    (h : ∀ inner, WorksIn inner (run inner)) : KeepsScopes (newScope outer >>= run) := by
  intro world
  have hgrown := h world.store.scopes.size ⟨(world.store.addChild outer).2, world.events⟩
  rw [outcome_bind_ok (outcome_newScope outer world)]
  exact hgrown.keeps_of_addChild

end Run

/-- The binding of arguments works in the scope of the call. -/
theorem worksIn_bindArguments (scope : ScopeId) (params : List Value) (rest : Option String)
    (args : List Value) : Run.WorksIn scope (bindArguments scope params rest args) := by
  unfold bindArguments
  split
  · exact Run.worksIn_bindAll scope _
  · exact Run.WorksIn.bind (.of_store_eq fun _ => rfl) fun _ => Run.worksIn_bindAll scope _

/-- A builtin leaves the store alone. -/
theorem Stage.store_outcome_builtin (stage : Stage) (id : String) (args : List Value)
    (scope : ScopeId) (world : World) :
    ((stage.applyCallable (.builtin id) args scope).outcome world).2.store = world.store := by
  rw [outcome_builtin]
  split <;> rfl

/-- A call of a closure keeps all scopes when the body works in the scope of the call. -/
theorem keepsScopes_call {outer : ScopeId} {params args : List Value} {rest : Option String}
    (change : Error → Error) {run : ScopeId → Run Value}
    (h : ∀ inner, Run.WorksIn inner (run inner)) :
    Run.KeepsScopes (do
      let inner ← Run.newScope outer
      bindArguments inner params rest args
      Run.mapError change (run inner)) :=
  Run.keepsScopes_newScope fun inner =>
    (worksIn_bindArguments inner params rest args).bind fun _ => (h inner).mapError change

/-- The logic of working in one's own scope. Nothing is asked of values. -/
def frameLogic (interpreter : Interpreter) : RunLogic Unit where
  interpreter _ := interpreter
  Good _ _ := True
  Holds n scope _ Post run := (run ()).WorksIn scope ∧ (run ()).Returns (Post n)
  good_mono _ _ := trivial
  good_list := RunLogic.anything_list _
  good_quoted _ := trivial
  good_data _ := trivial
  returns h := ⟨.of_store_eq fun _ => rfl, Run.returns_pure h⟩
  bind hrun hnext :=
    ⟨hrun.1.bind_of_returns hrun.2 fun a ha => (hnext _ (Nat.le_refl _) a ha).1,
      hrun.2.bind fun a ha => (hnext _ (Nat.le_refl _) a ha).2⟩
  fail _ := ⟨.of_store_eq fun _ => rfl, Run.returns_throw _ _⟩
  malformed _ := ⟨.of_store_eq fun _ => rfl, Run.returns_throw _ _⟩
  emit _ := ⟨.of_store_eq fun _ => rfl, Run.returns_true _⟩
  lookup _ := ⟨.of_store_eq fun _ => by rw [Run.outcome_lookup], Run.returns_true _⟩
  dispatch _ _ := ⟨.of_store_eq fun world => by
    rw [Run.outcome_dispatch]
    split <;> rfl, Run.returns_true _⟩
  define _ _ := ⟨Run.worksIn_define _ _ _, Run.returns_true _⟩
  closure _ _ _ := ⟨.of_store_eq fun _ => rfl, Run.returns_true _⟩
  builtin _ _ := ⟨.of_store_eq fun world => Stage.store_outcome_builtin .., Run.returns_true _⟩
  call _ _ hrun := ⟨fun world => (keepsScopes_call _ (fun inner =>
    (hrun _ (Nat.le_refl _) inner trivial).1) world).growsAt _, Run.returns_true _⟩
  child hrun := ⟨fun world => (Run.keepsScopes_newScope (fun inner =>
    (hrun _ (Nat.le_refl _) inner).1) world).growsAt _,
    Run.Returns.bind_of_forall fun inner => (hrun _ (Nat.le_refl _) inner).2⟩
  context _ hrun := ⟨hrun.1.mapError _, hrun.2.mapError _⟩

/-- A call of a builtin or a closure at any level leaves every existing scope as it was. -/
theorem Stage.keepsScopes_applyCallable (interpreter : Interpreter) (left : Nat) (callee : Value)
    (args : List Value) (scope : ScopeId) :
    Run.KeepsScopes
      (Stage.applyCallable ⟨interpreter, interpreter.level left⟩ callee args scope) := by
  cases callee with
  | builtin id =>
    intro world
    rw [Stage.store_outcome_builtin]
    exact ⟨Nat.le_refl _, fun _ _ => rfl⟩
  | closure params rest body outer =>
    have hbody : ∀ inner, (frameLogic interpreter).Holds 0 inner (frameLogic interpreter).Good
        fun _ => (interpreter.level left).body body inner := fun inner =>
      (RunLogic.level_holds left).body trivial
    exact keepsScopes_call _ fun inner => (hbody inner).1
  | _ => exact fun world => ⟨Nat.le_refl _, fun _ _ => rfl⟩

/-- Evaluation only ever touches its own scope. Whether it returns a value or fails, every scope
that existed before and is not the scope of the evaluation is exactly as it was, and in the scope
of the evaluation the scopes around are the same and every name has the bindings that it had with
new ones after them. A call of any value with any arguments, at any depth, leaves every existing
scope as it was, among them the scope that a closure was made in. -/
theorem evaluation_touches_own_scope (interpreter : Interpreter) (depth : Nat)
    (scope : ScopeId) (world : World) :
    (∀ expr, world.store.GrowsAt scope
      ((interpreter.evalAt depth expr scope).outcome world).2.store) ∧
    (∀ callee args, world.store.Keeps
      ((Stage.applyCallable ⟨interpreter, interpreter.level (maxEvalDepth - (depth + 1))⟩ callee
        args scope).outcome world).2.store) := by
  constructor
  · intro expr
    have hexpr : (frameLogic interpreter).Holds 0 scope (frameLogic interpreter).Good
        fun _ => interpreter.evalAt depth expr scope := RunLogic.evalAt_holds depth trivial
    exact hexpr.1 world
  · intro callee args
    exact Stage.keepsScopes_applyCallable interpreter _ callee args scope world

end ShapeLisp
