import ShapeLisp.Proofs.Eval.Dispatch
import ShapeLisp.Proofs.Eval.Unfolding
import ShapeLisp.Proofs.Scope.Lookup
import ShapeLisp.Regex.Engine

/-!
# When parameters are bound by position

A call whose arguments match no closure of the name takes the latest binding, and if that is a
closure its parameters are bound by position. Such a call says something about all the others: no
closure of the name matches the spread arguments. It says nothing about the arguments as they were
passed, since closures are chosen by the spread arguments alone; only the closure that was chosen
is tried on both.

A name may stand for a name, so a call can end in a closure of another name than the one it was
made with. What is said of the name holds of every name on the way.
-/

namespace ShapeLisp

section AnyEngine

variable [Regex.Engine]

/-! ### The closure that a call ends in -/

/-- A call of a name with arguments ends in a value after following the names that the names on the
way stand for. -/
inductive Store.EndsIn (store : Store) (scope : ScopeId) (args : List Value) :
    String → List String → Value → Prop where
  /-- The name is bound to the value itself. -/
  | here {name : String} {binding : Binding} {how : Dispatch}
      (hfound : store.dispatch scope name (flatten args) = .ok (binding, how))
      (hvalue : ∀ target, binding.value ≠ .sym target) :
      EndsIn store scope args name [] binding.value
  /-- The name stands for another one, whose call ends in the value. -/
  | follow {name target : String} {options : BindingOptions} {how : Dispatch}
      {targets : List String} {value : Value}
      (hfound : store.dispatch scope name (flatten args) = .ok (⟨.sym target, options⟩, how))
      (htarget : EndsIn store scope args target targets value) :
      EndsIn store scope args name (target :: targets) value

/-- A binding that does not match is found only where no closure matches. -/
theorem Store.matchesArgs_of_dispatch {store : Store} {scope near : ScopeId} {name : String}
    {args : List Value} {binding : Binding} {how : Dispatch}
    (hfound : store.dispatch scope name args = .ok (binding, how))
    (hbinding : matchesArgs args binding = false) (hnear : store.nearest? scope name = some near) :
    ∀ other ∈ (store.scope near).bindings name, matchesArgs args other = false := by
  rw [dispatch_eq_answer, hnear, Option.bind_some] at hfound
  have hchosen : chosen args ((store.scope near).bindings name) = some binding := by
    rw [← map_fst_choose]
    cases hchoose : choose args ((store.scope near).bindings name) with
    | none =>
      rw [hchoose] at hfound
      cases hfound
    | some found =>
      rw [hchoose] at hfound
      rw [Except.ok.inj hfound, Option.map_some]
  intro other hother
  apply Bool.eq_false_iff.mpr
  intro hmatches
  obtain ⟨first, hfirst⟩ := Option.isSome_iff_exists.mp
    (List.find?_isSome.mpr ⟨other, hother, hmatches⟩)
  -- The first closure that matches is chosen, so it would be the binding that does not match.
  rw [chosen, hfirst, Option.some_or] at hchosen
  have hself := List.find?_some hfirst
  rw [Option.some.inj hchosen, hbinding] at hself
  cases hself

/-- A call that ends in a closure that does not match passes no closure that matches. -/
theorem Store.EndsIn.matchesArgs_eq_false {store : Store} {scope near : ScopeId} {name : String}
    {args : List Value} {targets : List String} {params : List Value} {rest : Option String}
    {body : Value} {outer : ScopeId}
    (h : store.EndsIn scope args name targets (.closure params rest body outer))
    (hflat : Shape.matchParams params (flatten args) = none) {passed : String}
    (hpassed : passed ∈ name :: targets) (hnear : store.nearest? scope passed = some near) :
    ∀ other ∈ (store.scope near).bindings passed, matchesArgs (flatten args) other = false := by
  generalize hclosure : Value.closure params rest body outer = value at h
  induction h with
  | @here name binding how hfound hvalue =>
    obtain rfl := List.mem_singleton.mp hpassed
    refine matchesArgs_of_dispatch hfound ?_ hnear
    rw [matchesArgs, ← hclosure]
    simp only [hflat, Option.isSome_none]
  | @follow name target options how targets value hfound htarget ih =>
    rcases List.mem_cons.mp hpassed with rfl | hlater
    · exact matchesArgs_of_dispatch hfound rfl hnear
    · exact ih hlater hclosure

/-! ### What such a call does -/

/-- Arguments without a list among them stay as they are when they are spread. -/
theorem flatten_of_no_list {args : List Value} (h : ∀ items, .list items ∉ args) :
    flatten args = args := by
  induction args with
  | nil => rfl
  | cons arg more ih =>
    have hmore := ih fun items hitems => h items (List.mem_cons_of_mem _ hitems)
    unfold flatten at hmore ⊢
    rw [List.flatMap_cons, hmore]
    split
    · next items => exact absurd List.mem_cons_self (h items)
    · rfl

namespace Stage

/-- A call of a closure whose parameters do not match runs its body in a scope with the bindings by
position. -/
theorem outcome_applyCallable_positional (stage : Stage) {world : World} {args params : List Value}
    {rest : Option String} {body : Value} {outer scope : ScopeId}
    (hflat : Shape.matchParams params (flatten args) = none)
    (hargs : Shape.matchParams params args = none) :
    (stage.applyCallable (.closure params rest body outer) args scope).outcome world =
      (Run.mapError (fun error => stage.interpreter.annotate error (.inFunction body))
        (stage.lower.body body world.store.scopes.size)).outcome
        ⟨(world.store.addChild outer).2.bindAll world.store.scopes.size
            (positionalBindings params rest args),
          world.events.push (.boundByPosition params.length args.length)⟩ := by
  have hunbound : matchedBindings? params args = none := by
    rw [matchedBindings?, hflat, hargs, Option.none_or]
  rw [applyCallable, Run.outcome_bind_ok (Run.outcome_newScope outer world), bindArguments,
    hunbound]
  have hnoted := Run.outcome_emit (.boundByPosition params.length args.length)
    ⟨(world.store.addChild outer).2, world.events⟩
  exact Run.outcome_bind_ok ((Run.outcome_bind_ok hnoted).trans (Run.outcome_bindAll ..))

/-- A call that ends in a closure is a call of the closure, one level deeper for each name that was
followed. -/
theorem outcome_dispatch_endsIn (interpreter : Interpreter) {store : Store} {scope : ScopeId}
    {name : String} {args : List Value} {targets : List String} {params : List Value}
    {rest : Option String} {body : Value} {outer : ScopeId}
    (h : store.EndsIn scope args name targets (.closure params rest body outer)) {left : Nat}
    (hleft : targets.length ≤ left) (events : Array Event) :
    ∃ noted, (Stage.dispatch ⟨interpreter, interpreter.level left⟩ name args scope).outcome
        ⟨store, events⟩ =
      (Stage.applyCallable ⟨interpreter, interpreter.level (left - targets.length)⟩
        (.closure params rest body outer) args scope).outcome ⟨store, noted⟩ := by
  generalize hclosure : Value.closure params rest body outer = value at h
  induction h generalizing left events with
  | @here name binding how hfound hvalue =>
    refine ⟨events.push (.dispatched name how), ?_⟩
    rw [outcome_dispatch_of_found _ ⟨store, events⟩ hfound, ← hclosure]
    rfl
  | @follow name target options how targets value hfound htarget ih =>
    cases left with
    | zero => cases hleft
    | succ left =>
      obtain ⟨noted, houtcome⟩ := ih (Nat.le_of_succ_le_succ hleft)
        ((events.push (.dispatched name how)).push (.aliasFollowed name target)) hclosure
      refine ⟨noted, ?_⟩
      rw [List.length_cons, Nat.add_sub_add_right, ← houtcome,
        outcome_dispatch_of_found _ ⟨store, events⟩ hfound, outcome_applyResolved_sym]

end Stage

/-- A closure that does not match is called only when no closure matches the spread arguments. Let a
call end in a closure whose parameters match neither the spread arguments nor the arguments as
passed. Then for the name, and for every name that was followed on the way, no closure in the
nearest scope that binds it matches the spread arguments, and none matches the arguments as passed
when no argument is a list. The call runs the body in a scope with the bindings by position. -/
theorem bound_by_position_without_match (store : Store) (scope : ScopeId) (name : String)
    (args : List Value) (targets : List String) (params : List Value) (rest : Option String)
    (body : Value) (outer : ScopeId)
    (hends : store.EndsIn scope args name targets (.closure params rest body outer))
    (hflat : Shape.matchParams params (flatten args) = none)
    (hargs : Shape.matchParams params args = none) :
    (∀ passed ∈ name :: targets, ∀ near, store.nearest? scope passed = some near →
      ∀ binding ∈ (store.scope near).bindings passed,
        Store.matchesArgs (flatten args) binding = false ∧
          ((∀ items, .list items ∉ args) → Store.matchesArgs args binding = false)) ∧
    ∀ (interpreter : Interpreter) (left : Nat) (events : Array Event), targets.length ≤ left →
      ∃ noted, (Stage.dispatch ⟨interpreter, interpreter.level left⟩ name args scope).outcome
          ⟨store, events⟩ =
        (Run.mapError (fun error => interpreter.annotate error (.inFunction body))
          ((interpreter.level (left - targets.length)).body body store.scopes.size)).outcome
          ⟨(store.addChild outer).2.bindAll store.scopes.size
            (positionalBindings params rest args), noted⟩ := by
  constructor
  · intro passed hpassed near hnear binding hbinding
    have hunmatched := hends.matchesArgs_eq_false hflat hpassed hnear binding hbinding
    refine ⟨hunmatched, fun hplain => ?_⟩
    rwa [flatten_of_no_list hplain] at hunmatched
  · intro interpreter left events hleft
    obtain ⟨noted, houtcome⟩ := Stage.outcome_dispatch_endsIn interpreter hends hleft events
    exact ⟨_, houtcome.trans (Stage.outcome_applyCallable_positional _ hflat hargs)⟩

end AnyEngine

/-- A store whose only scope binds one name to a closure for a text and a closure for two texts, and
another name to the first. -/
def aliasedClosures : Store :=
  ⟨#[⟨[], [("f", [⟨.closure [.str "a"] none (.str "one") 0, {}⟩,
    ⟨.closure [.str "b", .sym "x"] none (.sym "x") 0, {}⟩]), ("g", [⟨.sym "f", {}⟩])]⟩]⟩

/-- A call through the other name with a third text ends in the latest closure, and neither closure
matches. -/
theorem bound_by_position_without_match_of_alias :
    aliasedClosures.EndsIn 0 [.str "c"] "g" ["f"]
        (.closure [.str "b", .sym "x"] none (.sym "x") 0) ∧
      ∀ binding ∈ (aliasedClosures.scope 0).bindings "f",
        Store.matchesArgs [.str "c"] binding = false := by
  have hname : aliasedClosures.dispatch 0 "g" (flatten [.str "c"]) =
      .ok (⟨.sym "f", {}⟩, .latest) := rfl
  have htarget : aliasedClosures.dispatch 0 "f" (flatten [.str "c"]) =
      .ok (⟨.closure [.str "b", .sym "x"] none (.sym "x") 0, {}⟩, .fellBack 2) := rfl
  have hends : aliasedClosures.EndsIn 0 [.str "c"] "g" ["f"]
      (.closure [.str "b", .sym "x"] none (.sym "x") 0) :=
    .follow hname (.here htarget fun _ h => nomatch h)
  refine ⟨hends, fun binding hbinding => ?_⟩
  exact ((bound_by_position_without_match aliasedClosures 0 "g" [.str "c"] ["f"]
    [.str "b", .sym "x"] none (.sym "x") 0 hends rfl rfl).1 "f" (by simp) 0 rfl binding hbinding).1

/-- A store whose only scope binds a name to a closure for the numbers of a range, which also
accepts a list of such numbers, and to a closure for any pair. -/
def rangeAndPair : Store :=
  ⟨#[⟨[], [("f", [⟨.closure [.range 1 5 none] none (.str "in") 0, {}⟩,
    ⟨.closure [.sym "x", .sym "y"] none (.str "pair") 0, {}⟩])]⟩]⟩

/-- A call with a list of three numbers in the range is bound by position in the closure for a pair,
although the closure for the range matches the list as it was passed. -/
theorem list_argument_passed_over :
    ¬ ∀ (store : Store) (scope : ScopeId) (name : String) (args : List Value)
      (targets : List String) (params : List Value) (rest : Option String) (body : Value)
      (outer : ScopeId), store.EndsIn scope args name targets (.closure params rest body outer) →
      Shape.matchParams params (flatten args) = none → Shape.matchParams params args = none →
      ∀ near, store.nearest? scope name = some near → ∀ binding ∈ (store.scope near).bindings name,
        Store.matchesArgs (flatten args) binding = false ∧
          Store.matchesArgs args binding = false := by
  intro hclaim
  have hfound : rangeAndPair.dispatch 0 "f" (flatten [.list [.num 1, .num 2, .num 3]]) =
      .ok (⟨.closure [.sym "x", .sym "y"] none (.str "pair") 0, {}⟩, .fellBack 2) := rfl
  have hends : rangeAndPair.EndsIn 0 [.list [.num 1, .num 2, .num 3]] "f" []
      (.closure [.sym "x", .sym "y"] none (.str "pair") 0) := .here hfound fun _ h => nomatch h
  have hfirst := hclaim rangeAndPair 0 "f" [.list [.num 1, .num 2, .num 3]] [] _ _ _ _ hends rfl rfl
    0 rfl ⟨.closure [.range 1 5 none] none (.str "in") 0, {}⟩ List.mem_cons_self
  have hmatches : Store.matchesArgs [.list [.num 1, .num 2, .num 3]]
      ⟨.closure [.range 1 5 none] none (.str "in") 0, {}⟩ = true := by decide +kernel
  rw [hmatches] at hfirst
  cases hfirst.2

end ShapeLisp
