import ShapeLisp.Proofs.Eval.Coherence
import ShapeLisp.Regex.Engine

/-!
# Names that are not bound

An evaluation fails for a name that is not bound exactly where the name is missing. The failure is
raised by lookups only, which may be deep inside calls, in scopes made on the way; every layer
around passes it on as it is, and since all scopes lie inside the first one, the first scope does
not bind the name either. The other way round, a name that no scope binds fails as soon as it is
used, before any operand is evaluated.
-/

namespace ShapeLisp

section AnyEngine

variable [Regex.Engine]

namespace Stage

variable {stage : Stage} {name : String} {scope : ScopeId} {world : World}

/-- The value of a name that no scope binds. -/
theorem outcome_resolve_of_unbound (h : world.store.Unbound scope name) :
    (stage.resolve name scope).outcome world = (.error (.undefinedSymbol name), world) := by
  have hlookup := Store.lookup_eq_error_iff.mpr ⟨h, rfl⟩
  exact Run.outcome_bind_error (Run.outcome_lookup_of_eq hlookup)

/-- A call with evaluated arguments of a name that no scope binds. -/
theorem outcome_dispatch_of_unbound (h : world.store.Unbound scope name) (args : List Value) :
    (stage.dispatch name args scope).outcome world =
      (.error (.undefinedSymbol name), world) := by
  have hchosen := Run.outcome_dispatch scope name (flatten args) world
  rw [Store.dispatch_eq_error_iff.mpr ⟨h, rfl⟩] at hchosen
  exact Run.outcome_bind_error hchosen

/-- A call of a name that no scope binds, whatever evaluating the operands would do. -/
theorem outcome_call_of_unbound (h : world.store.Unbound scope name) (operands : List Operand) :
    (stage.call name operands scope).outcome world = (.error (.undefinedSymbol name), world) := by
  have hlookup := Store.lookup_eq_error_iff.mpr ⟨h, rfl⟩
  exact Run.outcome_bind_error (Run.outcome_lookup_of_eq hlookup)

/-- A list that begins with a name that no scope binds and that is not the name of a form, whatever
evaluating its operands would do. -/
theorem outcome_runList_of_unbound (h : world.store.Unbound scope name)
    (hname : Form.ofName? name = none) {operator : Operand} (hoperator : operator.expr = .sym name)
    (operands : List Operand) :
    (stage.runList (operator :: operands) scope).outcome world =
      (.error (.undefinedSymbol name), world) := by
  simp only [runList, hoperator, hname]
  exact outcome_call_of_unbound h operands

end Stage

namespace Interpreter

variable {depth : Nat} {name : String} {scope : ScopeId} {world : World}

/-- Evaluating a name that no scope binds. -/
theorem outcome_evalAt_sym_of_unbound (interpreter : Interpreter) (hdepth : depth < maxEvalDepth)
    (h : world.store.Unbound scope name) :
    (interpreter.evalAt depth (.sym name) scope).outcome world =
      (.error (.undefinedSymbol name), world) := by
  rw [evalAt_sym hdepth]
  exact Stage.outcome_resolve_of_unbound h

/-- Evaluating a list that begins with a name that no scope binds and that is not the name of a
form. -/
theorem outcome_evalAt_list_of_unbound (host : Host) (hdepth : depth < maxEvalDepth)
    (h : world.store.Unbound scope name) (hname : Form.ofName? name = none) (args : List Value) :
    ((Interpreter.standard host).evalAt depth (.list (.sym name :: args)) scope).outcome world =
      (.error (.undefinedSymbol name), world) := by
  rw [evalAt_call hdepth hname, Run.outcome_mapError, Stage.outcome_call_of_unbound h]
  rfl

end Interpreter

/-- The root environment of a session that has just begun has the first scope. -/
theorem Session.IsFresh.scope_zero {host : Host} {session : Session} (h : session.IsFresh host) :
    session.scope 0 = 0 := by
  cases h <;> rfl

/-- The functions of a session blame names only where these cannot be found when those that the host
adds do. -/
theorem Session.blamesLookups_append {host : Host} (h : host.BlamesLookups) :
    Host.BlamesLookups (Standard.host ++ host) := fun registration hmem =>
  (List.mem_append.mp hmem).elim (Standard.host_blamesLookups registration) (h registration)

/-- In a coherent store the first scope does not bind a name that is bound in no scope from some
scope outward. -/
theorem Store.Coherent.bindings_root {host : Host} {store : Store} (h : store.Coherent host)
    {id : ScopeId} (hid : id < store.scopes.size) {name : String} (hname : store.Unbound id name) :
    (store.scope 0).bindings name = [] :=
  hname 0 (h.rooted id hid)

/-- A name is reported as not bound exactly where it is missing. Let a session begin with one root
environment, with the standard functions or without them, and with functions of a host that make up
no references and that blame a name only when they looked it up and could not find it; and let it be
asked for anything. If the evaluation of an expression, in any environment, fails because a name is
not bound, then in the end the root scope does not bind the name, and there is a scope from which
outward no scope binds it.

Conversely, in any world and at any depth below the limit, where no scope binds a name from a scope
outward, evaluating the name fails for it, and so does evaluating a list that begins with it, unless
it is the name of a form. Both leave the world as it is, and no operand is evaluated: the list fails
in the same way whatever evaluating its operands would do. -/
theorem undefined_exactly_where_missing (host : Host) {start session : Session}
    (hwithin : host.StaysWithin (Standard.host ++ host)) (hblames : host.BlamesLookups)
    (hfresh : start.IsFresh host) (hreaches : start.Reaches session) :
    (∀ environment expr name,
      expr.Belongs session.interpreter.host session.store.scopes.size →
      (session.evaluate environment expr).1.result = .error (.undefinedSymbol name) →
      let after := (session.evaluate environment expr).2.store
      (after.scope (start.scope 0)).bindings name = [] ∧
        ∃ id < after.scopes.size, after.Unbound id name) ∧
    ∀ depth, depth < maxEvalDepth → ∀ (scope : ScopeId) (name : String) (world : World),
      world.store.Unbound scope name →
      (session.interpreter.evalAt depth (.sym name) scope).outcome world =
        (.error (.undefinedSymbol name), world) ∧
      (Form.ofName? name = none →
        (∀ args, (session.interpreter.evalAt depth (.list (.sym name :: args)) scope).outcome
          world = (.error (.undefinedSymbol name), world)) ∧
        ∀ operator operands, Operand.expr operator = .sym name →
          ((session.interpreter.stageAt depth).runList (operator :: operands) scope).outcome world =
            (.error (.undefinedSymbol name), world)) := by
  have hall := Session.staysWithin_append hwithin
  have hsession := hfresh.coherent.reaches hall hreaches
  constructor
  · intro environment expr name hexpr hresult
    rw [hsession.interpreter_eq] at hexpr
    have hend := hsession.evaluate hall environment hexpr
    obtain ⟨id, hid, hunbound⟩ :=
      hend.missing (Session.blamesLookups_append hblames) name hresult
    rw [hfresh.scope_zero]
    exact ⟨hend.coherent.bindings_root hid hunbound, id, hid, hunbound⟩
  · intro depth hdepth scope name world hunbound
    rw [hsession.interpreter_eq]
    refine ⟨Interpreter.outcome_evalAt_sym_of_unbound _ hdepth hunbound, fun hname => ⟨?_, ?_⟩⟩
    · exact Interpreter.outcome_evalAt_list_of_unbound _ hdepth hunbound hname
    · intro operator operands hoperator
      exact Stage.outcome_runList_of_unbound hunbound hname hoperator operands

end AnyEngine

/-- A host whose only function gives its arguments back as a list. -/
def givingHost : Host :=
  [⟨"later", {}, .plain fun args => .value (.list args)⟩]

/-- The function makes up no references. -/
theorem givingHost_staysWithin (known : Host) : givingHost.StaysWithin known := by
  intro registration hmem size lookup args value _ hargs hvalue
  obtain rfl := List.mem_singleton.mp hmem
  obtain rfl := Except.ok.inj hvalue
  exact Value.belongs_list.mpr hargs

/-- The function blames no name. -/
theorem givingHost_blamesLookups : givingHost.BlamesLookups := by
  intro registration hmem
  obtain rfl := List.mem_singleton.mp hmem
  exact Operation.blamesLookups_plain fun args =>
    blamesNoName_ok (Value.list args)

/-- A session with a function that uses a name which is not bound where the function is defined, and
with an environment inside in which the name is bound. -/
def hiddenSession : Session :=
  (((Session.bare givingHost).perform
    (.evaluate 0 (.list [.sym "def", .list [.sym "f"], .list [.sym "later", .sym "x"]]))).perform
      (.child 0)).perform (.define 1 "x" (.num 1) {})

/-- The session is reached by actions that refer to what it has. -/
theorem reaches_hiddenSession : (Session.bare givingHost).Reaches hiddenSession := by
  refine .step (.step (.step .refl ?_) trivial) (Value.IsData.num 1).belongs
  refine Value.belongs_list.mpr ?_
  simp only [List.forall_mem_cons, List.not_mem_nil, false_implies, implies_true, and_true]
  exact ⟨Value.belongs_sym _, Value.belongs_symbols ["f"], Value.belongs_symbols ["later", "x"]⟩

/-- A function that is called where a name is bound still fails for the name when it was defined
where the name is not, and the root scope does not bind the name in the end. -/
theorem undefined_exactly_where_missing_of_hidden :
    let ended := hiddenSession.evaluate 1 (.list [.sym "f"])
    (hiddenSession.evaluate 1 (.sym "x")).1.result = .ok (.num 1) ∧
    ended.1.result = .error (.undefinedSymbol "x") ∧
    (ended.2.store.scope 0).bindings "x" = [] ∧
    ∃ id < ended.2.store.scopes.size, ended.2.store.Unbound id "x" :=
  ⟨rfl, rfl, (undefined_exactly_where_missing givingHost (givingHost_staysWithin _)
    givingHost_blamesLookups .bare reaches_hiddenSession).1 1 (.list [.sym "f"]) "x"
    (Value.belongs_symbols ["f"]) rfl⟩

end ShapeLisp
