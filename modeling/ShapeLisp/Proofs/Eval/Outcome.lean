import ShapeLisp.Eval.Evaluate

/-!
# Outcomes of runs

A run takes a world to a result and a world. `Run.outcome` is that function, and two runs with the
same outcome in every world are the same run. Every primitive of evaluation has one equation that
says what it does to the world; later proofs use these equations and never open the monad.
-/

namespace ShapeLisp

variable [Regex.Engine]

/-- A note leaves the cause of a failure as it is. -/
theorem Failure.cause_annotate (failure : Failure) (note : Note) :
    (failure.annotate note).cause = failure.cause := by
  rw [annotate]
  split <;> rfl

/-- What a run makes of a world: its result, and the world as it has become. -/
def Run.outcome {α : Type} (run : Run α) (world : World) : Except Error α × World :=
  run.run.run world

namespace Run

variable {α β : Type}

/-- A run is what it does in every world. -/
theorem ext_outcome {first second : Run α}
    (h : ∀ world, first.outcome world = second.outcome world) : first = second :=
  funext h

/-- Returning a value leaves the world as it is. -/
@[simp]
theorem outcome_pure (a : α) (world : World) :
    (pure a : Run α).outcome world = (.ok a, world) := rfl

/-- Raising an error leaves the world as it is. -/
@[simp]
theorem outcome_throw (error : Error) (world : World) :
    (throw error : Run α).outcome world = (.error error, world) := rfl

/-- Failing for a cause leaves the world as it is. -/
@[simp]
theorem outcome_fail (cause : Cause) (world : World) :
    (fail cause : Run α).outcome world = (.error (.of cause), world) := rfl

/-- A sequence goes on with the value and the world of its first part, unless that fails. -/
theorem outcome_bind (run : Run α) (next : α → Run β) (world : World) :
    (run >>= next).outcome world =
      match run.outcome world with
      | (.ok a, after) => (next a).outcome after
      | (.error error, after) => (.error error, after) := by
  change (ExceptT.bind run next).run.run world = _
  simp only [ExceptT.bind, ExceptT.mk, ExceptT.run, StateT.run, outcome, Bind.bind, StateT.bind]
  generalize run world = outcome
  obtain ⟨result, after⟩ := outcome
  cases result <;> rfl

/-- A sequence whose first part returns. -/
theorem outcome_bind_ok {run : Run α} {next : α → Run β} {world after : World} {a : α}
    (h : run.outcome world = (.ok a, after)) :
    (run >>= next).outcome world = (next a).outcome after := by
  rw [outcome_bind, h]

/-- A sequence whose first part fails. -/
theorem outcome_bind_error {run : Run α} {next : α → Run β} {world after : World} {error : Error}
    (h : run.outcome world = (.error error, after)) :
    (run >>= next).outcome world = (.error error, after) := by
  rw [outcome_bind, h]

/-- Changing errors changes neither values nor the world. -/
theorem outcome_mapError (change : Error → Error) (run : Run α) (world : World) :
    (mapError change run).outcome world =
      match run.outcome world with
      | (.ok a, after) => (.ok a, after)
      | (.error error, after) => (.error (change error), after) := by
  simp only [mapError, ExceptT.mk, ExceptT.run, StateT.run, outcome, Bind.bind, StateT.bind]
  generalize run world = outcome
  obtain ⟨result, after⟩ := outcome
  cases result <;> rfl

/-- Going on with a result leaves the world as it is. -/
@[simp]
theorem outcome_ofResult (result : Except Error α) (world : World) :
    (ofResult result).outcome world = (result, world) := by
  cases result <;> rfl

/-- An event is added to the trail. -/
@[simp]
theorem outcome_emit (event : Event) (world : World) :
    (emit event).outcome world = (.ok (), ⟨world.store, world.events.push event⟩) := rfl

/-- Events are added to the trail in order. -/
@[simp]
theorem outcome_emitAll (events : List Event) (world : World) :
    (emitAll events).outcome world =
      (.ok (), ⟨world.store, world.events ++ events.toArray⟩) := by
  induction events generalizing world with
  | nil => rw [emitAll, outcome_pure, Array.append_empty]
  | cons event rest ih =>
    rw [emitAll, outcome_bind_ok (outcome_emit event world), ih]
    simp

/-- Looking a name up reads the store. -/
@[simp]
theorem outcome_lookup (scope : ScopeId) (name : String) (world : World) :
    (lookup scope name).outcome world = (world.store.lookup scope name, world) := by
  change (ofResult (world.store.lookup scope name)).outcome world = _
  rw [outcome_ofResult]

/-- A lookup whose answer is known. -/
theorem outcome_lookup_of_eq {scope : ScopeId} {name : String} {world : World}
    {answer : Except Error Binding} (h : world.store.lookup scope name = answer) :
    (lookup scope name).outcome world = (answer, world) := by
  rw [outcome_lookup, h]

/-- A new scope goes to the end of the store. -/
@[simp]
theorem outcome_newScope (outer : ScopeId) (world : World) :
    (newScope outer).outcome world =
      (.ok world.store.scopes.size, ⟨(world.store.addChild outer).2, world.events⟩) := rfl

/-- Binding adds to a scope of the store. -/
@[simp]
theorem outcome_runBind (scope : ScopeId) (name : String) (value : Value) (world : World) :
    (Run.bind scope name value).outcome world =
      (.ok (), ⟨world.store.bind scope name ⟨value, {}⟩, world.events⟩) := rfl

/-- A definition goes through the store, or fails and leaves the world as it is. -/
theorem outcome_define (scope : ScopeId) (name : String) (value : Value) (world : World) :
    (define scope name value).outcome world =
      match world.store.define scope name ⟨value, {}⟩ with
      | .ok store => (.ok (), ⟨store, world.events⟩)
      | .error error => (.error error, world) := by
  change ((if world.store.isLocked scope name then
    fail (.locked name) else Run.bind scope name value : Run Unit).outcome world) = _
  rw [Store.define]
  split
  · rfl
  · rfl

/-- Choosing a binding reads the store and notes how it was chosen. -/
theorem outcome_dispatch (scope : ScopeId) (name : String) (args : List Value) (world : World) :
    (dispatch scope name args).outcome world =
      match world.store.dispatch scope name args with
      | .ok (binding, how) =>
        (.ok binding, ⟨world.store, world.events.push (.dispatched name how)⟩)
      | .error error => (.error error, world) := by
  change (ofResult (world.store.dispatch scope name args) >>= _).outcome world = _
  rw [outcome_bind, outcome_ofResult]
  cases world.store.dispatch scope name args <;> rfl

/-- Every value that the run returns, in whatever world, satisfies a condition. -/
def Returns (run : Run α) (Post : α → Prop) : Prop :=
  ∀ world a, (run.outcome world).1 = .ok a → Post a

/-- Every run returns something. -/
theorem returns_true (run : Run α) : run.Returns fun _ => True :=
  fun _ _ _ => trivial

/-- What is returned at once. -/
theorem returns_pure {Post : α → Prop} {a : α} (h : Post a) : Returns (pure a) Post := by
  intro world b hb
  cases hb
  exact h

/-- A failure returns nothing. -/
theorem returns_throw (Post : α → Prop) (error : Error) : Returns (throw error) Post := by
  intro world a ha
  cases ha

/-- What one run after another returns is returned by the second. -/
theorem Returns.bind {run : Run α} {next : α → Run β} {Mid : α → Prop} {Post : β → Prop}
    (hrun : Returns run Mid) (hnext : ∀ a, Mid a → Returns (next a) Post) :
    Returns (run >>= next) Post := by
  intro world b hb
  have hfirst := hrun world
  rw [outcome_bind] at hb
  generalize run.outcome world = outcome at hfirst hb
  obtain ⟨result, after⟩ := outcome
  cases result with
  | error error => cases hb
  | ok a => exact hnext a (hfirst a rfl) after b hb

/-- What is returned after any run is what the second run returns. -/
theorem Returns.bind_of_forall {run : Run α} {next : α → Run β} {Post : β → Prop}
    (hnext : ∀ a, Returns (next a) Post) : Returns (run >>= next) Post :=
  run.returns_true.bind fun a _ => hnext a

/-- Changing errors changes nothing in what is returned. -/
theorem Returns.mapError {run : Run α} {Post : α → Prop} (change : Error → Error)
    (hrun : Returns run Post) : Returns (Run.mapError change run) Post := by
  intro world a ha
  have hfirst := hrun world
  rw [outcome_mapError] at ha
  generalize run.outcome world = outcome at hfirst ha
  obtain ⟨result, after⟩ := outcome
  cases result with
  | error error => cases ha
  | ok value => exact hfirst a ha

end Run

/-- A builtin answers what its operation replies, after its call is noted, and leaves the store
alone. -/
theorem Stage.outcome_builtin (stage : Stage) (id : String) (args : List Value) (scope : ScopeId)
    (world : World) :
    (stage.applyCallable (.builtin id) args scope).outcome world =
      match stage.interpreter.host.operation? id with
      | some operation =>
        let reply := operation (fun name => (world.store.lookup scope name).map Binding.value) args
        (reply.result, ⟨world.store,
          world.events.push (.builtinCalled id args.length) ++ reply.events.toArray⟩)
      | none =>
        (.error (.undefinedSymbol id),
          ⟨world.store, world.events.push (.builtinCalled id args.length)⟩) := by
  unfold applyCallable
  rw [Run.outcome_bind_ok (Run.outcome_emit _ world)]
  cases stage.interpreter.host.operation? id with
  | none => rfl
  | some operation =>
    have hevents := Run.outcome_emitAll (operation (fun name =>
      (world.store.lookup scope name).map Binding.value) args).events
        ⟨world.store, world.events.push (.builtinCalled id args.length)⟩
    refine (Run.outcome_bind_ok hevents).trans ?_
    rw [Run.outcome_ofResult]

end ShapeLisp
