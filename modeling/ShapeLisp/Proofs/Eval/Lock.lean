import ShapeLisp.Proofs.Eval.Frame
import ShapeLisp.Session
import ShapeLisp.Regex.Engine

/-!
# Locked names

A name is locked in a scope when its latest binding there says so. From then on the bindings of the
name in that scope stay as they are: evaluations add bindings to existing scopes by definitions
only, which ask whether the name is locked, and the bindings that are added without asking go to
scopes that were just made. So a lock outlasts every session, and a definition that it refuses
leaves the world as it was at that moment. Other scopes are not concerned.
-/

namespace ShapeLisp

section AnyEngine

variable [Regex.Engine]

namespace Store

/-- The locked names of a store have the bindings that they had. -/
def KeepsLocked (before after : Store) : Prop :=
  ∀ id name, before.isLocked id name = true →
    (after.scope id).bindings name = (before.scope id).bindings name

variable {before middle after : Store} {id : ScopeId} {name : String}

/-- A scope in which a name is locked exists. -/
theorem lt_size_of_isLocked (h : before.isLocked id name = true) : id < before.scopes.size := by
  by_contra hsize
  have hscope : before.scope id = ⟨[], []⟩ := by
    rw [scope, Array.getD_eq_getD_getElem?, Array.getElem?_eq_none (Nat.le_of_not_lt hsize)]
    rfl
  rw [isLocked, hscope] at h
  cases h

/-- A lock holds as long as the bindings are the same. -/
theorem isLocked_eq_of_bindings_eq
    (h : (after.scope id).bindings name = (before.scope id).bindings name) :
    after.isLocked id name = before.isLocked id name := by
  rw [isLocked, isLocked, h]

namespace KeepsLocked

/-- What was locked is locked. -/
theorem isLocked (h : KeepsLocked before after) (hlocked : before.isLocked id name = true) :
    after.isLocked id name = true :=
  (isLocked_eq_of_bindings_eq (h id name hlocked)).trans hlocked

/-- Doing nothing. -/
theorem refl (store : Store) : KeepsLocked store store := fun _ _ _ => rfl

/-- One piece of work after another. -/
theorem trans (first : KeepsLocked before middle) (second : KeepsLocked middle after) :
    KeepsLocked before after := fun id name hlocked =>
  (second id name (first.isLocked hlocked)).trans (first id name hlocked)

/-- Work that leaves every existing scope as it was. -/
theorem of_keeps (h : Keeps before after) : KeepsLocked before after := fun id name hlocked => by
  rw [h.same id (lt_size_of_isLocked hlocked)]

/-- A definition that is not refused. -/
theorem of_define {scope : ScopeId} {binding : Binding}
    (h : before.define scope name binding = .ok after) : KeepsLocked before after := by
  rw [define] at h
  split at h
  · cases h
  · next hopen =>
    obtain rfl := Except.ok.inj h
    intro id other hlocked
    by_cases hid : id = scope
    · subst hid
      have hother : other ≠ name := by
        rintro rfl
        exact hopen hlocked
      rw [scope_bind_self before (lt_size_of_isLocked hlocked), Scope.bindings_bind_of_ne hother]
    · rw [scope_bind_of_ne before hid]

end KeepsLocked

end Store

/-! ### Evaluations -/

namespace Run

variable {α β : Type}

/-- The run leaves the bindings of locked names as they are. -/
def KeepsLocked (run : Run α) : Prop :=
  ∀ world : World, world.store.KeepsLocked (run.outcome world).2.store

/-- A run that leaves the store alone. -/
theorem KeepsLocked.of_store_eq {run : Run α}
    (h : ∀ world, (run.outcome world).2.store = world.store) : KeepsLocked run := by
  intro world
  rw [h world]
  exact .refl world.store

/-- One run after another, when the second is known to keep locks for what the first returns. -/
theorem KeepsLocked.bind_of_returns {run : Run α} {next : α → Run β} {Mid : α → Prop}
    (hrun : KeepsLocked run) (hmid : run.Returns Mid)
    (hnext : ∀ a, Mid a → KeepsLocked (next a)) : KeepsLocked (run >>= next) := by
  intro world
  have hfirst := hrun world
  have hreturned := hmid world
  rw [outcome_bind]
  generalize run.outcome world = outcome at hfirst hreturned ⊢
  obtain ⟨result, after⟩ := outcome
  cases result with
  | error error => exact hfirst
  | ok a => exact hfirst.trans (hnext a (hreturned a rfl) after)

/-- Changing errors changes nothing in the store. -/
theorem KeepsLocked.mapError {run : Run α} (change : Error → Error) (hrun : KeepsLocked run) :
    KeepsLocked (Run.mapError change run) := by
  intro world
  have hfirst := hrun world
  rw [outcome_mapError]
  generalize run.outcome world = outcome at hfirst ⊢
  obtain ⟨result, after⟩ := outcome
  cases result <;> exact hfirst

/-- A definition keeps locks: it asks whether the name is locked. -/
theorem keepsLocked_define (scope : ScopeId) (name : String) (value : Value) :
    KeepsLocked (define scope name value) := by
  intro world
  rw [outcome_define]
  split
  · next store hdefine => exact .of_define hdefine
  · exact .refl world.store

/-- A new scope keeps locks, and so does what is done in it. -/
theorem keepsLocked_child {outer : ScopeId} {run : ScopeId → Run α}
    (hrun : ∀ inner, KeepsLocked (run inner)) : KeepsLocked (newScope outer >>= run) := by
  intro world
  have hadded : world.store.Keeps (world.store.addChild outer).2 :=
    (Store.GrowsAt.refl world.store.scopes.size (world.store.addChild outer).2).keeps_of_addChild
  rw [outcome_bind_ok (outcome_newScope outer world)]
  exact (Store.KeepsLocked.of_keeps hadded).trans
    (hrun world.store.scopes.size ⟨(world.store.addChild outer).2, world.events⟩)

/-- Work in a new scope keeps locks, whatever is bound in that scope at first. -/
theorem keepsLocked_newScope {outer : ScopeId} {first : ScopeId → Run α}
    {next : ScopeId → α → Run β} (hfirst : ∀ inner, WorksIn inner (first inner))
    (hnext : ∀ inner a, KeepsLocked (next inner a)) :
    KeepsLocked (newScope outer >>= fun inner => first inner >>= next inner) := by
  intro world
  have hgrown := hfirst world.store.scopes.size ⟨(world.store.addChild outer).2, world.events⟩
  rw [outcome_bind_ok (outcome_newScope outer world), outcome_bind]
  generalize (first world.store.scopes.size).outcome _ = outcome at hgrown ⊢
  obtain ⟨result, after⟩ := outcome
  have hkept : world.store.KeepsLocked after.store := .of_keeps hgrown.keeps_of_addChild
  cases result with
  | error error => exact hkept
  | ok a => exact hkept.trans (hnext world.store.scopes.size a after)

end Run

/-- The logic of keeping locks. Nothing is asked of values. -/
def lockLogic (interpreter : Interpreter) : RunLogic Unit where
  interpreter _ := interpreter
  Good _ _ := True
  Holds n _ _ Post run := (run ()).KeepsLocked ∧ (run ()).Returns (Post n)
  good_mono _ _ := trivial
  good_list := RunLogic.anything_list _
  good_quoted _ := trivial
  good_data _ := trivial
  returns h := ⟨.of_store_eq fun _ => rfl, Run.returns_pure h⟩
  bind hrun hnext :=
    ⟨hrun.1.bind_of_returns hrun.2 fun a ha => (hnext _ (Nat.le_refl _) a ha).1,
      hrun.2.bind fun a ha => (hnext _ (Nat.le_refl _) a ha).2⟩
  fail _ := ⟨.of_store_eq fun _ => rfl, Run.returns_throw _ _⟩
  malformed _ := ⟨.of_store_eq fun _ => rfl, Run.returns_throw _ _⟩
  emit _ := ⟨.of_store_eq fun _ => rfl, Run.returns_true _⟩
  lookup _ := ⟨.of_store_eq fun _ => by rw [Run.outcome_lookup], Run.returns_true _⟩
  dispatch _ _ := ⟨.of_store_eq fun world => by
    rw [Run.outcome_dispatch]
    split <;> rfl, Run.returns_true _⟩
  define _ _ := ⟨Run.keepsLocked_define _ _ _, Run.returns_true _⟩
  closure _ _ _ := ⟨.of_store_eq fun _ => rfl, Run.returns_true _⟩
  builtin _ _ := ⟨.of_store_eq fun world => Stage.store_outcome_builtin .., Run.returns_true _⟩
  call _ _ hrun := ⟨Run.keepsLocked_newScope
    (fun inner => worksIn_bindArguments inner _ _ _)
    fun inner _ => (hrun _ (Nat.le_refl _) inner trivial).1.mapError _, Run.returns_true _⟩
  child hrun := ⟨Run.keepsLocked_child fun inner => (hrun _ (Nat.le_refl _) inner).1,
    Run.Returns.bind_of_forall fun inner => (hrun _ (Nat.le_refl _) inner).2⟩
  context _ hrun := ⟨hrun.1.mapError _, hrun.2.mapError _⟩

/-- Every evaluation, at any depth and in any scope, keeps locks. -/
theorem Interpreter.keepsLocked_evalAt (interpreter : Interpreter) (depth : Nat) (expr : Value)
    (scope : ScopeId) : (interpreter.evalAt depth expr scope).KeepsLocked := by
  have hexpr : (lockLogic interpreter).Holds 0 scope (lockLogic interpreter).Good
      fun _ => interpreter.evalAt depth expr scope := RunLogic.evalAt_holds depth trivial
  exact hexpr.1

/-! ### Definitions that are evaluated -/

/-- A definition of a locked name is refused and changes nothing. -/
theorem Run.outcome_define_of_isLocked {world : World} {scope : ScopeId} {name : String}
    (hlocked : world.store.isLocked scope name = true) (value : Value) :
    (define scope name value).outcome world = (.error (.of (.locked name)), world) := by
  rw [outcome_define, Store.define, if_pos hlocked]

/-- A definition of a name that is not locked adds a binding. -/
theorem Run.outcome_define_of_not_isLocked {world : World} {scope : ScopeId} {name : String}
    (hopen : world.store.isLocked scope name = false) (value : Value) :
    (define scope name value).outcome world =
      (.ok (), ⟨world.store.bind scope name ⟨value, {}⟩, world.events⟩) := by
  rw [outcome_define, Store.define, hopen]
  rfl

/-- The operands of a definition of a function under a name, with the parameters and the body. -/
inductive Form.DefinesFunction (name : String) : (operands formals body : List Value) → Prop where
  /-- The name and the parameters are in one list. -/
  | together (formals : List Value) (first : Value) (more : List Value) :
    DefinesFunction name (.list (.sym name :: formals) :: first :: more) formals (first :: more)
  /-- The parameters follow the name. -/
  | apart (formals first : Value) (more : List Value) :
    DefinesFunction name (.sym name :: formals :: first :: more) (parameters formals)
      (first :: more)

namespace Interpreter

variable {interpreter : Interpreter} {depth : Nat} {word : String} {scope : ScopeId}

/-- A list that begins with a word for definitions runs the definition, if it has enough parts. -/
theorem evalAt_define (hdepth : depth < maxEvalDepth) (hword : Form.ofName? word = some .define)
    {operands : List Value} (hoperands : 2 ≤ operands.length) :
    interpreter.evalAt depth (.list (.sym word :: operands)) scope =
      Run.mapError
        (fun error => interpreter.annotate error (.context (.list (.sym word :: operands))))
        (Form.runDefine (Operand.ofExprs (interpreter.evalAt depth) operands) scope) := by
  have harity : Form.define.arity.check operands.length = .ok () :=
    Arity.check_eq_ok (.atLeast 2) (Arity.accepts_atLeast.mpr hoperands)
  exact evalAt_form hdepth hword harity

/-- A definition by a value evaluates the value and binds it. -/
theorem evalAt_define_value (hdepth : depth < maxEvalDepth)
    (hword : Form.ofName? word = some .define) (name : String) (expr : Value) :
    interpreter.evalAt depth (.list [.sym word, .sym name, expr]) scope =
      Run.mapError
        (fun error => interpreter.annotate error (.context (.list [.sym word, .sym name, expr])))
        (do
          let value ← interpreter.evalAt depth expr scope
          Run.define scope name value
          return .nil) := by
  have hoperands : 2 ≤ [Value.sym name, expr].length := Nat.le_refl 2
  rw [evalAt_define hdepth hword hoperands]
  simp only [Operand.ofExprs, Form.runDefine, Operand.expr_ofExpr, Operand.run_ofExpr]

/-- A definition of a function makes the function and binds it. -/
theorem evalAt_define_function (hdepth : depth < maxEvalDepth)
    (hword : Form.ofName? word = some .define) {name : String} {operands formals body : List Value}
    (h : Form.DefinesFunction name operands formals body) :
    interpreter.evalAt depth (.list (.sym word :: operands)) scope =
      Run.mapError
        (fun error => interpreter.annotate error (.context (.list (.sym word :: operands))))
        (Form.defineFunction name formals (Operand.ofExprs (interpreter.evalAt depth) body)
          scope) := by
  cases h <;>
    rw [evalAt_define hdepth hword (by simp)] <;>
    simp only [Operand.ofExprs, Form.runDefine, Operand.expr_ofExpr]

end Interpreter

/-- Making a function in a world where the name is locked fails and changes nothing. -/
theorem Form.outcome_defineFunction_of_isLocked {world : World} {scope : ScopeId} {name : String}
    (hlocked : world.store.isLocked scope name = true) (formals : List Value)
    (body : List Operand) :
    ∃ cause, (defineFunction name formals body scope).outcome world =
      (.error (.of cause), world) := by
  rw [defineFunction]
  cases makeClosure formals (Operand.exprs body) scope with
  | ok function =>
    have hrefused := Run.outcome_define_of_isLocked hlocked function
    exact ⟨.locked name, Run.outcome_bind_error hrefused⟩
  | error cause => exact ⟨cause, Run.outcome_bind_error (Run.outcome_fail cause world)⟩

/-- How definitions of a name that are evaluated in a scope are refused in a world. -/
structure Interpreter.Refuses (interpreter : Interpreter) (scope : ScopeId) (name : String)
    (world : World) : Prop where
  /-- A definition by a value fails because of the lock once the value is there. -/
  value : ∀ {depth word expr result reached}, Form.ofName? word = some .define →
    (interpreter.evalAt depth expr scope).outcome world = (.ok result, reached) →
    ∃ failure, failure.cause = .locked name ∧
      (interpreter.evalAt depth (.list [.sym word, .sym name, expr]) scope).outcome world =
        (.error (.eval failure), reached)
  /-- A definition whose value fails goes no further than that. -/
  failing : ∀ {depth word expr error reached}, Form.ofName? word = some .define →
    (interpreter.evalAt depth expr scope).outcome world = (.error error, reached) →
    ∃ failed, (interpreter.evalAt depth (.list [.sym word, .sym name, expr]) scope).outcome world =
      (.error failed, reached)
  /-- A definition of a function fails at once. -/
  function : ∀ {depth word operands formals body}, Form.ofName? word = some .define →
    Form.DefinesFunction name operands formals body →
    ∃ failure, (interpreter.evalAt depth (.list (.sym word :: operands)) scope).outcome world =
      (.error (.eval failure), world)

/-- How definitions of a name that are evaluated in a scope are accepted in a world. -/
structure Interpreter.Accepts (interpreter : Interpreter) (scope : ScopeId) (name : String)
    (world : World) : Prop where
  /-- A definition by a value adds the value as a binding. -/
  value : ∀ {depth word expr result reached}, Form.ofName? word = some .define →
    (interpreter.evalAt depth expr scope).outcome world = (.ok result, reached) →
    reached.store.isLocked scope name = false →
    (interpreter.evalAt depth (.list [.sym word, .sym name, expr]) scope).outcome world =
      (.ok .nil, ⟨reached.store.bind scope name ⟨result, {}⟩, reached.events⟩)
  /-- A definition of a function adds the function as a binding. -/
  function : ∀ {depth word operands formals body closure}, depth < maxEvalDepth →
    Form.ofName? word = some .define → Form.DefinesFunction name operands formals body →
    Form.makeClosure formals body scope = .ok closure →
    world.store.isLocked scope name = false →
    (interpreter.evalAt depth (.list (.sym word :: operands)) scope).outcome world =
      (.ok .nil, ⟨world.store.bind scope name ⟨closure, {}⟩, world.events⟩)

namespace Interpreter

/-- An evaluation that returns a value is not at the limit. -/
theorem lt_of_outcome_evalAt {interpreter : Interpreter} {depth : Nat} {expr result : Value}
    {scope : ScopeId} {world reached : World}
    (h : (interpreter.evalAt depth expr scope).outcome world = (.ok result, reached)) :
    depth < maxEvalDepth := by
  by_contra hdepth
  rw [outcome_evalAt_of_le interpreter (Nat.le_of_not_lt hdepth)] at h
  cases h

/-- Where a name is locked its definitions are refused. -/
theorem refuses_of_isLocked (host : Host) {world : World} {scope : ScopeId} {name : String}
    (hlocked : world.store.isLocked scope name = true) :
    (Interpreter.standard host).Refuses scope name world where
  value := by
    intro depth word expr result reached hword hvalue
    have hreached : reached.store.isLocked scope name = true := by
      have hkept := keepsLocked_evalAt (.standard host) depth expr scope world
      rw [hvalue] at hkept
      exact hkept.isLocked hlocked
    have hrefused := Run.outcome_define_of_isLocked hreached result
    rw [evalAt_define_value (lt_of_outcome_evalAt hvalue) hword, Run.outcome_mapError,
      Run.outcome_bind_ok hvalue, Run.outcome_bind_error hrefused]
    exact ⟨_, Failure.cause_annotate _ _, rfl⟩
  failing := by
    intro depth word expr error reached hword hvalue
    by_cases hdepth : depth < maxEvalDepth
    · rw [evalAt_define_value hdepth hword, Run.outcome_mapError, Run.outcome_bind_error hvalue]
      exact ⟨_, rfl⟩
    · have hlimit := Nat.le_of_not_lt hdepth
      rw [outcome_evalAt_of_le _ hlimit] at hvalue ⊢
      exact ⟨_, Prod.ext rfl (Prod.mk.inj hvalue).2⟩
  function := by
    intro depth word operands formals body hword hfunction
    by_cases hdepth : depth < maxEvalDepth
    · obtain ⟨cause, hrefused⟩ := Form.outcome_defineFunction_of_isLocked hlocked formals
        (Operand.ofExprs ((Interpreter.standard host).evalAt depth) body)
      rw [evalAt_define_function hdepth hword hfunction, Run.outcome_mapError, hrefused]
      exact ⟨_, rfl⟩
    · rw [outcome_evalAt_of_le _ (Nat.le_of_not_lt hdepth)]
      exact ⟨_, rfl⟩

/-- Where a name is not locked its definitions are accepted. -/
theorem accepts (interpreter : Interpreter) (scope : ScopeId) (name : String) (world : World) :
    interpreter.Accepts scope name world where
  value := by
    intro depth word expr result reached hword hvalue hopen
    have haccepted := Run.outcome_define_of_not_isLocked hopen result
    rw [evalAt_define_value (lt_of_outcome_evalAt hvalue) hword, Run.outcome_mapError,
      Run.outcome_bind_ok hvalue, Run.outcome_bind_ok haccepted, Run.outcome_pure]
  function := by
    intro depth word operands formals body closure hdepth hword hfunction hclosure hopen
    have haccepted := Run.outcome_define_of_not_isLocked hopen closure
    rw [evalAt_define_function hdepth hword hfunction, Run.outcome_mapError, Form.defineFunction,
      Operand.exprs_ofExprs, hclosure, Run.outcome_bind_ok haccepted, Run.outcome_pure]

end Interpreter

/-! ### Sessions -/

namespace Session

/-- What a session can be asked to do. -/
inductive Action where
  /-- To evaluate an expression in an environment. -/
  | evaluate (environment : Nat) (expr : Value)
  /-- To define a name in an environment. -/
  | define (environment : Nat) (name : String) (value : Value) (options : BindingOptions)
  /-- To make an environment inside another. -/
  | child (environment : Nat)
  /-- To give out a scope, such as the one that a function was made in, as an environment. -/
  | adopt (scope : ScopeId)

/-- The session after an action; a definition that fails leaves it as it was. -/
def perform (session : Session) : Action → Session
  | .evaluate environment expr => (session.evaluate environment expr).2
  | .define environment name value options =>
    match session.define environment name value options with
    | .ok after => after
    | .error _ => session
  | .child environment => (session.child environment).2
  | .adopt scope => { session with environments := session.environments.push scope }

/-- The session after actions in order. -/
def performAll (session : Session) (actions : List Action) : Session :=
  actions.foldl perform session

/-- A definition in a session is a definition in its store. -/
theorem define_eq (session : Session) (environment : Nat) (name : String) (value : Value)
    (options : BindingOptions) :
    session.define environment name value options =
      (session.store.define (session.scope environment) name ⟨value, options⟩).map
        fun store => { session with store := store } := by
  rw [define]
  cases session.store.define (session.scope environment) name ⟨value, options⟩ <;> rfl

/-- An action keeps locks. -/
theorem keepsLocked_perform (session : Session) (action : Action) :
    session.store.KeepsLocked (session.perform action).store := by
  cases action with
  | evaluate environment expr =>
    exact session.interpreter.keepsLocked_evalAt 0 expr (session.scope environment)
      ⟨session.store, #[]⟩
  | define environment name value options =>
    rw [perform, define_eq]
    cases hdefine : session.store.define (session.scope environment) name ⟨value, options⟩ with
    | ok store => exact .of_define hdefine
    | error error => exact .refl session.store
  | child environment =>
    exact .of_keeps (Store.GrowsAt.refl session.store.scopes.size
      (session.store.addChild (session.scope environment)).2).keeps_of_addChild
  | adopt scope => exact .refl session.store

/-- Actions in order keep locks. -/
theorem keepsLocked_performAll (session : Session) (actions : List Action) :
    session.store.KeepsLocked (session.performAll actions).store := by
  induction actions generalizing session with
  | nil => exact .refl session.store
  | cons action more ih => exact (keepsLocked_perform session action).trans (ih _)

/-- A definition succeeds exactly where the name is not locked. -/
theorem define_ok_iff (session : Session) (environment : Nat) (name : String) (value : Value)
    (options : BindingOptions) :
    (∃ after, session.define environment name value options = .ok after) ↔
      session.store.isLocked (session.scope environment) name = false := by
  rw [define_eq, Store.define]
  cases session.store.isLocked (session.scope environment) name with
  | true =>
    constructor
    · rintro ⟨_, h⟩
      cases h
    · intro h
      cases h
  | false => exact ⟨fun _ => rfl, fun _ => ⟨_, rfl⟩⟩

/-- The scope of a new environment is the new scope. -/
theorem scope_child (session : Session) (environment : Nat) :
    (session.child environment).2.scope (session.child environment).1 =
      session.store.scopes.size := by
  simp only [child, scope, Array.getD_eq_getD_getElem?, Array.getElem?_push_size,
    Option.getD_some, Store.addChild]

/-- Nothing is locked in a new environment. -/
theorem isLocked_child (session : Session) (environment : Nat) (name : String) :
    (session.child environment).2.store.isLocked session.store.scopes.size name = false := by
  change (session.store.addChild (session.scope environment)).2.isLocked _ _ = false
  rw [Store.isLocked, Store.scope_addChild_size]
  rfl

end Session

/-- A locked name stays locked. Let a name be locked in a scope of a session, and let the session be
asked for any actions, whether they succeed or fail. Then the name has the bindings in the scope
that it had. A definition of the name in an environment with that scope fails and leaves the session
as it is; in any world with the lock, an evaluation of any expression at any depth leaves the
bindings of the name alone, and the definitions of the name that are evaluated in the scope are
refused. In any environment the name can be defined exactly when it is not locked in the scope of
that environment, so it can be in every new one, and definitions that are evaluated there are
accepted. -/
theorem locked_name_stays_locked (session : Session) (id : ScopeId) (name : String)
    (hlocked : session.store.isLocked id name = true) (actions : List Session.Action) :
    ((session.performAll actions).store.scope id).bindings name =
      (session.store.scope id).bindings name ∧
    (∀ environment value options, (session.performAll actions).scope environment = id →
      (session.performAll actions).define environment name value options =
          .error (.of (.locked name)) ∧
        (session.performAll actions).perform (.define environment name value options) =
          session.performAll actions) ∧
    (∀ (host : Host) (world : World), world.store.isLocked id name = true →
      (∀ depth expr scope,
        ((((Interpreter.standard host).evalAt depth expr scope).outcome world).2.store.scope
          id).bindings name = (world.store.scope id).bindings name) ∧
      (Interpreter.standard host).Refuses id name world) ∧
    (∀ environment value options,
      ((∃ after, (session.performAll actions).define environment name value options = .ok after) ↔
        (session.performAll actions).store.isLocked
          ((session.performAll actions).scope environment) name = false) ∧
      ∃ after, ((session.performAll actions).child environment).2.define
        ((session.performAll actions).child environment).1 name value options = .ok after) ∧
    ∀ host inner world, (Interpreter.standard host).Accepts inner name world := by
  have hkept := Session.keepsLocked_performAll session actions
  generalize session.performAll actions = later at hkept
  refine ⟨hkept id name hlocked, ?_, ?_, ?_, ?_⟩
  · intro environment value options hscope
    have hrefused : later.define environment name value options = .error (.of (.locked name)) := by
      rw [Session.define_eq, hscope, Store.define, if_pos (hkept.isLocked hlocked)]
      rfl
    refine ⟨hrefused, ?_⟩
    rw [Session.perform, hrefused]
  · intro host world hworld
    refine ⟨fun depth expr scope => ?_, Interpreter.refuses_of_isLocked host hworld⟩
    exact Interpreter.keepsLocked_evalAt (.standard host) depth expr scope world id name hworld
  · intro environment value options
    refine ⟨Session.define_ok_iff later environment name value options, ?_⟩
    rw [Session.define_ok_iff, Session.scope_child, Session.isLocked_child]
  · intro host inner world
    exact Interpreter.accepts (.standard host) inner name world

end AnyEngine

/-- A session whose only environment has a locked name. -/
def lockedSession : Session :=
  ⟨.standard [], ⟨#[⟨[], [("limit", [⟨.num 10, ⟨false, true⟩⟩])]⟩]⟩, #[0]⟩

/-- The name keeps its one binding although it is defined in a scope inside, by an evaluation and by
the host. -/
theorem locked_name_stays_locked_of_limit :
    lockedSession.store.isLocked 0 "limit" = true ∧
      ((lockedSession.performAll [.child 0, .define 1 "limit" (.num 3) {},
        .evaluate 0 (.list [.sym "def", .sym "limit", .num 5]),
        .define 0 "limit" (.num 7) {}]).store.scope 0).bindings "limit" =
        [⟨.num 10, ⟨false, true⟩⟩] :=
  ⟨rfl, (locked_name_stays_locked lockedSession 0 "limit" rfl _).1⟩

end ShapeLisp
