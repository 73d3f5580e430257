import ShapeLisp.Proofs.Eval.Dispatch
import ShapeLisp.Proofs.Eval.LogicRules
import ShapeLisp.Proofs.Reader.Lines
import ShapeLisp.Session
import ShapeLisp.Regex.Engine

/-!
# Scripts

A script is a source text of several lines with one expression each. It is read as the list of its
expressions, and unless the first of them makes the list a call, the list is evaluated as a
sequence: it means the same as its lines entered one by one.

A session shows every step the events of that step only, while the steps of a sequence share one
trail. The two agree because no evaluation reads the trail: each adds the same events at its end,
whatever has happened before.
-/

namespace ShapeLisp

section AnyEngine

variable [Regex.Engine]

/-! ### The trail is only written -/

namespace Run

variable {α β : Type}

/-- The run does not read the trail: from a store it comes to one result and one store, and adds
the same events at the end of any trail. -/
def AddsEvents (run : Run α) : Prop :=
  ∀ store, ∃ result after added, ∀ events,
    run.outcome ⟨store, events⟩ = (result, ⟨after, events ++ added⟩)

/-- One run after another, when the second is known to add events for what the first returns. -/
theorem AddsEvents.bind_of_returns {run : Run α} {next : α → Run β} {Mid : α → Prop}
    (hrun : AddsEvents run) (hmid : run.Returns Mid) (hnext : ∀ a, Mid a → AddsEvents (next a)) :
    AddsEvents (run >>= next) := by
  intro store
  obtain ⟨result, middle, earlier, hfirst⟩ := hrun store
  cases result with
  | error error =>
    exact ⟨.error error, middle, earlier, fun events => outcome_bind_error (hfirst events)⟩
  | ok a =>
    have ha : Mid a := hmid ⟨store, #[]⟩ a (by rw [hfirst])
    obtain ⟨result, after, later, hsecond⟩ := hnext a ha middle
    refine ⟨result, after, earlier ++ later, fun events => ?_⟩
    rw [outcome_bind_ok (hfirst events), hsecond, Array.append_assoc]

/-- One run after another. -/
theorem AddsEvents.bind {run : Run α} {next : α → Run β} (hrun : AddsEvents run)
    (hnext : ∀ a, AddsEvents (next a)) : AddsEvents (run >>= next) :=
  hrun.bind_of_returns run.returns_true fun a _ => hnext a

/-- Changing errors changes nothing in the events. -/
theorem AddsEvents.mapError {run : Run α} (change : Error → Error) (hrun : AddsEvents run) :
    AddsEvents (Run.mapError change run) := by
  intro store
  obtain ⟨result, after, added, h⟩ := hrun store
  refine ⟨result.mapError change, after, added, fun events => ?_⟩
  rw [outcome_mapError, h]
  cases result <;> rfl

/-- Returning a value is no event. -/
theorem addsEvents_pure (a : α) : AddsEvents (pure a) :=
  fun store => ⟨.ok a, store, #[], fun events => by rw [outcome_pure, Array.append_empty]⟩

/-- Failing is no event. -/
theorem addsEvents_throw (error : Error) : AddsEvents (throw error : Run α) :=
  fun store => ⟨.error error, store, #[], fun events => by
    rw [outcome_throw, Array.append_empty]⟩

/-- Looking a name up is no event. -/
theorem addsEvents_lookup (scope : ScopeId) (name : String) : AddsEvents (lookup scope name) :=
  fun store => ⟨store.lookup scope name, store, #[], fun events => by
    rw [outcome_lookup, Array.append_empty]⟩

/-- An event is added. -/
theorem addsEvents_emit (event : Event) : AddsEvents (emit event) :=
  fun store => ⟨.ok (), store, #[event], fun _ => rfl⟩

/-- A new scope is no event. -/
theorem addsEvents_newScope (outer : ScopeId) : AddsEvents (newScope outer) :=
  fun store => ⟨.ok store.scopes.size, (store.addChild outer).2, #[], fun events => by
    rw [outcome_newScope, Array.append_empty]⟩

/-- Binding names is no event. -/
theorem addsEvents_bindAll (scope : ScopeId) (bindings : List (String × Value)) :
    AddsEvents (bindAll scope bindings) :=
  fun store => ⟨.ok (), store.bindAll scope bindings, #[], fun events => by
    rw [outcome_bindAll, Array.append_empty]⟩

/-- The choice of a binding is an event. -/
theorem addsEvents_dispatch (scope : ScopeId) (name : String) (args : List Value) :
    AddsEvents (dispatch scope name args) := by
  intro store
  cases hchosen : store.dispatch scope name args with
  | error error =>
    refine ⟨.error error, store, #[], fun events => ?_⟩
    rw [outcome_dispatch, hchosen, Array.append_empty]
  | ok chosen =>
    obtain ⟨binding, how⟩ := chosen
    refine ⟨.ok binding, store, #[.dispatched name how], fun events => ?_⟩
    rw [outcome_dispatch, hchosen]
    rfl

/-- A definition is no event. -/
theorem addsEvents_define (scope : ScopeId) (name : String) (value : Value) :
    AddsEvents (define scope name value) := by
  intro store
  cases hdefined : store.define scope name ⟨value, {}⟩ with
  | error error =>
    refine ⟨.error error, store, #[], fun events => ?_⟩
    rw [outcome_define, hdefined, Array.append_empty]
  | ok after =>
    refine ⟨.ok (), after, #[], fun events => ?_⟩
    rw [outcome_define, hdefined, Array.append_empty]

end Run

/-- Binding the arguments of a call adds at most the note that they were bound by position. -/
theorem addsEvents_bindArguments (scope : ScopeId) (params : List Value) (rest : Option String)
    (args : List Value) : Run.AddsEvents (bindArguments scope params rest args) := by
  unfold bindArguments
  split
  · exact Run.addsEvents_bindAll scope _
  · exact (Run.addsEvents_emit _).bind fun _ => Run.addsEvents_bindAll scope _

/-- A builtin adds the note that it is called and the events of its reply. -/
theorem Stage.addsEvents_builtin (stage : Stage) (id : String) (args : List Value)
    (scope : ScopeId) : Run.AddsEvents (stage.applyCallable (.builtin id) args scope) := by
  intro store
  cases hoperation : stage.interpreter.host.operation? id with
  | none =>
    refine ⟨.error (.undefinedSymbol id), store, #[.builtinCalled id args.length], fun events => ?_⟩
    rw [outcome_builtin, hoperation]
    rfl
  | some operation =>
    let reply := operation (fun name => (store.lookup scope name).map Binding.value) args
    refine ⟨reply.result, store, #[.builtinCalled id args.length] ++ reply.events.toArray,
      fun events => ?_⟩
    rw [outcome_builtin, hoperation, ← Array.append_assoc]
    rfl

/-- The logic of runs that do not read the trail. Nothing is asked of values. -/
def trailLogic (interpreter : Interpreter) : RunLogic Unit where
  interpreter _ := interpreter
  Good _ _ := True
  Holds n _ _ Post run := (run ()).AddsEvents ∧ (run ()).Returns (Post n)
  good_mono _ _ := trivial
  good_list := RunLogic.anything_list _
  good_quoted _ := trivial
  good_data _ := trivial
  returns h := ⟨Run.addsEvents_pure _, Run.returns_pure h⟩
  bind hrun hnext :=
    ⟨hrun.1.bind_of_returns hrun.2 fun a ha => (hnext _ (Nat.le_refl _) a ha).1,
      hrun.2.bind fun a ha => (hnext _ (Nat.le_refl _) a ha).2⟩
  fail _ := ⟨Run.addsEvents_throw _, Run.returns_throw _ _⟩
  malformed _ := ⟨Run.addsEvents_throw _, Run.returns_throw _ _⟩
  emit event := ⟨Run.addsEvents_emit event, Run.returns_true _⟩
  lookup _ := ⟨Run.addsEvents_lookup _ _, Run.returns_true _⟩
  dispatch _ _ := ⟨Run.addsEvents_dispatch _ _ _, Run.returns_true _⟩
  define _ _ := ⟨Run.addsEvents_define _ _ _, Run.returns_true _⟩
  closure _ _ _ := ⟨Run.addsEvents_pure _, Run.returns_true _⟩
  builtin _ _ := ⟨Stage.addsEvents_builtin _ _ _ _, Run.returns_true _⟩
  call _ _ hrun := ⟨(Run.addsEvents_newScope _).bind fun inner =>
    (addsEvents_bindArguments inner _ _ _).bind fun _ =>
      (hrun _ (Nat.le_refl _) inner trivial).1.mapError _, Run.returns_true _⟩
  child hrun := ⟨(Run.addsEvents_newScope _).bind fun inner =>
    (hrun _ (Nat.le_refl _) inner).1,
    Run.Returns.bind_of_forall fun inner => (hrun _ (Nat.le_refl _) inner).2⟩
  context _ hrun := ⟨hrun.1.mapError _, hrun.2.mapError _⟩

/-- No evaluation reads the trail. -/
theorem Interpreter.addsEvents_evalAt (interpreter : Interpreter) (depth : Nat) (expr : Value)
    (scope : ScopeId) : (interpreter.evalAt depth expr scope).AddsEvents := by
  have hexpr : (trailLogic interpreter).Holds 0 scope (trailLogic interpreter).Good
      fun _ => interpreter.evalAt depth expr scope := RunLogic.evalAt_holds depth trivial
  exact hexpr.1

/-- No sequence of evaluations reads the trail. -/
theorem Interpreter.addsEvents_runLast (interpreter : Interpreter) (depth : Nat)
    (scope : ScopeId) (last : Value) (exprs : List Value) :
    Run.AddsEvents
      (Operand.runLast scope last (Operand.ofExprs (interpreter.evalAt depth) exprs)) := by
  induction exprs generalizing last with
  | nil => exact Run.addsEvents_pure last
  | cons expr rest ih =>
    simp only [Operand.ofExprs, Operand.runLast, Operand.run_ofExpr]
    exact (interpreter.addsEvents_evalAt depth expr scope).bind ih

/-! ### Lists that are sequences -/

/-- A list is a sequence when its first item is neither a name nor applied: it cannot be applied
itself, and if it is a list, its value cannot. -/
theorem Stage.outcome_runList_sequence (stage : Stage) {operator second : Operand}
    {more : List Operand} {scope : ScopeId} {world : World}
    (hname : ∀ name, operator.expr ≠ .sym name) (hcallable : operator.expr.isCallable = false)
    (hoperator : operator.expr.isOperator = false)
    (hvalue : ∀ items, operator.expr = .list items →
      ∀ value, ((operator.run scope).outcome world).1 = .ok value →
        value.isCallable = false ∧ value.isOperator = false) :
    (stage.runList (operator :: second :: more) scope).outcome world =
      (Operand.runSequence scope (operator :: second :: more)).outcome world := by
  rw [runList]
  split
  · next name hexpr => exact absurd hexpr (hname name)
  · next items hexpr =>
    rw [Operand.runSequence, Operand.runLast, Run.outcome_bind, Run.outcome_bind]
    have happlied := hvalue items hexpr
    generalize (operator.run scope).outcome world = outcome at happlied
    obtain ⟨result, after⟩ := outcome
    cases result with
    | error error => rfl
    | ok value =>
      obtain ⟨hcallable, hoperator⟩ := happlied value rfl
      simp only [applyComputed, hcallable, hoperator]
      rfl
  · rw [hcallable, hoperator]
    rfl

/-! ### Steps of a session -/

/-- The answer with another error where it is one. -/
def Answer.mapError (change : Error → Error) (answer : Answer) : Answer :=
  { answer with result := answer.result.mapError change }

namespace Session

/-- Evaluates expressions in turn in an environment, and stops at the first failure. The answer has
the value of the last one, or the given value when there is none, and the events of all. -/
def evaluateEach (session : Session) (environment : Nat) (last : Value) :
    List Value → Answer × Session
  | [] => (⟨.ok last, []⟩, session)
  | expr :: rest =>
    let (answer, after) := session.evaluate environment expr
    match answer.result with
    | .ok value =>
      let (later, final) := after.evaluateEach environment value rest
      (⟨later.result, answer.events ++ later.events⟩, final)
    | .error _ => (answer, after)

/-- The first expression of a list does not make the list a call in an environment. -/
structure BeginsSequence (session : Session) (environment : Nat) (first : Value) : Prop where
  /-- It is not a name. -/
  notName : ∀ name, first ≠ .sym name
  /-- It is not a function. -/
  notCallable : first.isCallable = false
  /-- It is not a range, a regular expression, a JSON literal or a pointer. -/
  notOperator : first.isOperator = false
  /-- If it is a list and has a value there, then that is no such thing either. -/
  notComputed : ∀ items, first = .list items →
    ∀ value, (session.evaluate environment first).1.result = .ok value →
      value.isCallable = false ∧ value.isOperator = false

/-- A step of a session that does a run. -/
def execute (session : Session) (run : Run Value) : Answer × Session :=
  let outcome := run.outcome ⟨session.store, #[]⟩
  (⟨outcome.1, outcome.2.events.toList⟩, { session with store := outcome.2.store })

section Steps

variable {session : Session} {environment : Nat}

/-- To evaluate an expression is to run its evaluation. -/
theorem evaluate_eq_execute (expr : Value) :
    session.evaluate environment expr =
      session.execute (session.interpreter.evalAt 0 expr (session.scope environment)) := rfl

/-- What a step answers and leaves is what its run comes to. -/
theorem execute_of_outcome (session : Session) {run : Run Value} {result : Except Error Value}
    {after : World} (h : run.outcome ⟨session.store, #[]⟩ = (result, after)) :
    session.execute run =
      (⟨result, after.events.toList⟩, { session with store := after.store }) := by
  rw [execute, h]

/-- A step whose errors are changed. -/
theorem execute_mapError (change : Error → Error) (run : Run Value) :
    session.execute (Run.mapError change run) =
      ((session.execute run).1.mapError change, (session.execute run).2) := by
  simp only [execute, Run.outcome_mapError]
  generalize run.outcome ⟨session.store, #[]⟩ = outcome
  obtain ⟨result, after⟩ := outcome
  cases result <;> rfl

variable {last : Value} {expr : Value} {rest : List Value} {events : List Event} {after : Session}

/-- After an expression that has a value come the others. -/
theorem evaluateEach_of_ok {value : Value}
    (h : session.evaluate environment expr = (⟨.ok value, events⟩, after)) :
    session.evaluateEach environment last (expr :: rest) =
      (⟨(after.evaluateEach environment value rest).1.result,
          events ++ (after.evaluateEach environment value rest).1.events⟩,
        (after.evaluateEach environment value rest).2) := by
  rw [evaluateEach, h]

/-- After an expression that fails comes nothing. -/
theorem evaluateEach_of_error {error : Error}
    (h : session.evaluate environment expr = (⟨.error error, events⟩, after)) :
    session.evaluateEach environment last (expr :: rest) = (⟨.error error, events⟩, after) := by
  rw [evaluateEach, h]

end Steps

/-- A sequence does what its expressions do in turn. -/
theorem execute_runLast (session : Session) (environment : Nat) (last : Value)
    (exprs : List Value) :
    session.execute (Operand.runLast (session.scope environment) last
        (Operand.ofExprs (session.interpreter.evalAt 0) exprs)) =
      session.evaluateEach environment last exprs := by
  induction exprs generalizing session last with
  | nil => rfl
  | cons expr rest ih =>
    simp only [Operand.ofExprs, Operand.runLast, Operand.run_ofExpr]
    rcases hrun : (session.interpreter.evalAt 0 expr (session.scope environment)).outcome
      ⟨session.store, #[]⟩ with ⟨result, after⟩
    have hexpr : session.evaluate environment expr =
        (⟨result, after.events.toList⟩, { session with store := after.store }) :=
      execute_of_outcome session hrun
    cases result with
    | error error =>
      rw [evaluateEach_of_error hexpr, execute_of_outcome session (Run.outcome_bind_error hrun)]
    | ok value =>
      -- The rest goes on with the trail of the first step here and begins with an empty one there.
      obtain ⟨result, final, added, hrest⟩ := session.interpreter.addsEvents_runLast 0
        (session.scope environment) value rest after.store
      have hlater : Session.evaluateEach { session with store := after.store } environment value
          rest = (⟨result, (#[] ++ added).toList⟩, { session with store := final }) := by
        rw [← ih]
        exact execute_of_outcome { session with store := after.store } (hrest #[])
      have hall : (session.interpreter.evalAt 0 expr (session.scope environment) >>= fun value =>
          Operand.runLast (session.scope environment) value
            (Operand.ofExprs (session.interpreter.evalAt 0) rest)).outcome ⟨session.store, #[]⟩ =
          (result, ⟨final, after.events ++ added⟩) := by
        rw [Run.outcome_bind_ok hrun]
        exact hrest after.events
      rw [evaluateEach_of_ok hexpr, hlater, execute_of_outcome session hall, Array.toList_append,
        Array.empty_append]

/-- A list whose first expression does not make it a call does what its expressions do in turn, and
a failure is noted with the list. -/
theorem evaluate_sequence {session : Session} {environment : Nat} {first second : Value}
    {more : List Value} (h : session.BeginsSequence environment first) :
    session.evaluate environment (.list (first :: second :: more)) =
      let (answer, final) := session.evaluateEach environment .nil (first :: second :: more)
      (answer.mapError fun error =>
        session.interpreter.annotate error (.context (.list (first :: second :: more))),
        final) := by
  have hsequence : ((session.interpreter.stageAt 0).runList
      (Operand.ofExprs (session.interpreter.evalAt 0) (first :: second :: more))
        (session.scope environment)).outcome ⟨session.store, #[]⟩ =
      (Operand.runSequence (session.scope environment)
        (Operand.ofExprs (session.interpreter.evalAt 0) (first :: second :: more))).outcome
          ⟨session.store, #[]⟩ := by
    simp only [Operand.ofExprs]
    apply Stage.outcome_runList_sequence
    · simpa using h.notName
    · simpa using h.notCallable
    · simpa using h.notOperator
    · intro items hitems value hvalue
      rw [Operand.expr_ofExpr] at hitems
      rw [Operand.run_ofExpr] at hvalue
      exact h.notComputed items hitems value hvalue
  rw [evaluate_eq_execute, Interpreter.evalAt_list (by decide), execute_mapError,
    ← execute_runLast, execute_of_outcome session hsequence]
  rfl

end Session

/-- A script means the same as its lines entered one by one. Source texts with one expression each,
put one below the other, are read as the list of their expressions. In every session and
environment, unless the first expression makes this list a call, to evaluate the list is to
evaluate the expressions in turn and to stop at the first failure: the value is that of the last
one, the events are those of all, so what is logged and waited is the same, and the session is left
as it is then. Only a failure without a note of where it was raised gets one, with the list. -/
theorem script_means_its_lines (comments : Bool) (sources : List String) (values : List Value)
    (hlength : 2 ≤ sources.length)
    (hsources : List.Forall₂ (fun source value => Reader.HasExpressions comments source [value])
      sources values) :
    Reader.readWith comments ("\n".intercalate sources) = .ok (.list values) ∧
    ∀ (host : Host) (store : Store) (environments : Array ScopeId) (environment : Nat)
      (first : Value), values.head? = some first →
      Session.BeginsSequence ⟨.standard host, store, environments⟩ environment first →
      Session.evaluate ⟨.standard host, store, environments⟩ environment (.list values) =
        let (answer, final) := Session.evaluateEach ⟨.standard host, store, environments⟩
          environment .nil values
        (answer.mapError fun error => error.annotate (.context (.list values)), final) := by
  refine ⟨Reader.readWith_lines hlength hsources, ?_⟩
  intro host store environments environment first hfirst hbegins
  have hvalues : 2 ≤ values.length := hsources.length_eq ▸ hlength
  match values, hvalues with
  | head :: second :: more, _ =>
    obtain rfl : head = first := Option.some.inj hfirst
    exact Session.evaluate_sequence hbegins

end AnyEngine

/-- A definition with a comment after it, and below it a line that uses the name. -/
theorem script_means_its_lines_of_definition :
    Reader.readWith true ("\n".intercalate ["(def x \"a\") ; one", "x"]) =
      .ok (.list [.list [.sym "def", .sym "x", .str "a"], .sym "x"]) ∧
    (Session.evaluate ⟨.standard [], Store.empty.addRoot.2, #[0]⟩ 0
      (.list [.list [.sym "def", .sym "x", .str "a"], .sym "x"])).1.result = .ok (.str "a") := by
  have hsources : List.Forall₂
      (fun source value => Reader.HasExpressions true source [value])
      ["(def x \"a\") ; one", "x"] [.list [.sym "def", .sym "x", .str "a"], .sym "x"] :=
    .cons rfl (.cons rfl .nil)
  obtain ⟨hread, hevaluate⟩ := script_means_its_lines true _ _ (by decide) hsources
  have hbegins : Session.BeginsSequence ⟨.standard [], Store.empty.addRoot.2, #[0]⟩ 0
      (.list [.sym "def", .sym "x", .str "a"]) :=
    { notName := fun _ h => nomatch h
      notCallable := rfl
      notOperator := rfl
      notComputed := by
        intro _ _ value hvalue
        obtain rfl : value = .nil := (Except.ok.inj hvalue).symm
        exact ⟨rfl, rfl⟩ }
  refine ⟨hread, ?_⟩
  rw [hevaluate [] Store.empty.addRoot.2 #[0] 0 _ rfl hbegins]
  rfl

end ShapeLisp
