import ShapeLisp.Proofs.Eval.Coherence
import ShapeLisp.Proofs.Eval.Dispatch
import ShapeLisp.Proofs.Shape.Specification
import ShapeLisp.Regex.Engine

/-!
# Every call binds its parameters

The arguments of a call are bound in one of three ways: spread, as they are, or by position. All
three bind, in the scope of the call itself, every symbol among the parameters before the rest
marker, and the rest parameter to a list. The name of the rest parameter is found when the function
is made, and the match finds it again; both are functions of the parameters, and in a session no
closure ever has another name for it than its parameters say.
-/

namespace ShapeLisp

section AnyEngine

variable [Regex.Engine]

/-! ### The names that are bound -/

namespace Shape

/-- What a match binds, with what is known of the rest: a rest parameter is bound to a list. -/
theorem binds_of_matchParams {formals actuals : List Value} {found : Bindings}
    (h : matchParams formals actuals = some found) :
    ∃ rest : String → Option Value, Binds (splitRest formals).1 actuals rest found ∧
      ∀ name, restName formals = .ok (some name) → ∃ items, rest name = some (.list items) := by
  rw [matchParams] at h
  rw [restName]
  generalize splitRest formals = parts at h ⊢
  obtain ⟨fixed, tail⟩ := parts
  cases tail with
  | nil =>
    dsimp only at h ⊢
    split at h
    · obtain ⟨hle, -, rfl⟩ := matchEach_eq_some_iff.mp h
      refine ⟨fun _ => none, binds_of_find? hle fun _ => Option.none_or.symm, fun name hname => ?_⟩
      cases hname
    · cases h
  | cons marker following =>
    dsimp only at h ⊢
    split at h
    · cases h
    · obtain ⟨known, hknown, hrest⟩ := Option.bind_eq_some_iff.mp h
      obtain ⟨target, htarget, hbound⟩ := Option.bind_eq_some_iff.mp hrest
      obtain ⟨hle, -, rfl⟩ := matchEach_eq_some_iff.mp hknown
      obtain ⟨more, rfl⟩ := List.head?_eq_some_iff.mp htarget
      obtain rfl := Option.some.inj hbound
      refine ⟨restEntry target (actuals.drop fixed.length),
        binds_of_find? hle fun name => find?_bindRest .., fun name hname => ?_⟩
      -- of the shapes after a marker only a symbol gives a name
      dsimp only at hname
      split at hname
      · cases hname
      · cases target with
        | sym bound =>
          obtain rfl := Option.some.inj (Except.ok.inj hname)
          exact ⟨_, restEntry_sym bound _⟩
        | _ => cases hname

end Shape

/-- Symbols are bound by position, however many arguments there are. -/
theorem mem_positionalFixed {params : List Value} {name : String} (h : .sym name ∈ params)
    (args : List Value) : ∃ value, (name, value) ∈ positionalFixed params args := by
  fun_induction positionalFixed params args with
  | case1 => cases h
  | case2 bound params args ih =>
    rcases List.mem_cons.mp h with hname | hlater
    · obtain rfl := Value.sym.inj hname
      exact ⟨_, List.mem_cons_self⟩
    · obtain ⟨value, hmem⟩ := ih hlater
      exact ⟨value, List.mem_cons_of_mem _ hmem⟩
  | case3 param params args hparam ih =>
    rcases List.mem_cons.mp h with hname | hlater
    · exact absurd hname.symm (hparam name)
    · exact ih hlater

/-! ### The scope of a call -/

namespace Store

/-- What a call has bound in its scope: every symbol before the rest marker, and the rest parameter
to a list. -/
structure BindsFormals (store : Store) (scope : ScopeId) (params : List Value)
    (rest : Option String) : Prop where
  /-- Every symbol before the rest marker is bound. -/
  fixed : ∀ name, .sym name ∈ (Shape.splitRest params).1 → (store.scope scope).bindings name ≠ []
  /-- The rest parameter is bound to a list. -/
  rest : ∀ name, rest = some name →
    ∃ items, ((store.scope scope).bindings name).getLast? = some ⟨.list items, {}⟩

variable {store : Store} {id : ScopeId}

/-- Binding entries one after the other adds to each name its values in order. -/
theorem bindings_bindAll_filter (h : id < store.scopes.size) (entries : List (String × Value))
    (name : String) : ((store.bindAll id entries).scope id).bindings name =
      (store.scope id).bindings name ++
        (entries.filter fun entry => entry.1 = name).map fun entry => ⟨entry.2, {}⟩ := by
  induction entries generalizing store with
  | nil => exact (List.append_nil _).symm
  | cons entry rest ih =>
    obtain ⟨key, value⟩ := entry
    rw [bindAll, List.foldl_cons, ← bindAll, ih (by rwa [size_bind]), scope_bind_self _ h]
    by_cases hname : key = name
    · subst hname
      simp
    · simp [hname, Scope.bindings_bind_of_ne (Ne.symm hname)]

/-- The bindings of a match. -/
theorem bindsFormals_matched (h : id < store.scopes.size) {params actuals : List Value}
    {rest : Option String} {found : Shape.Bindings} (hrest : Shape.restName params = .ok rest)
    (hfound : Shape.matchParams params actuals = some found) :
    (store.bindAll id found).BindsFormals id params rest := by
  have hsorted := Shape.sorted_matchParams hfound
  obtain ⟨restOf, hbinds, hlist⟩ := Shape.binds_of_matchParams hfound
  constructor
  · intro name hname
    have hmem := (hbinds.names name).mpr (.inl hname)
    obtain ⟨value, hvalue⟩ := Option.isSome_iff_exists.mp (Keyed.isSome_find?_iff.mpr hmem)
    rw [bindings_bindAll h hsorted, hvalue]
    simp
  · rintro name rfl
    obtain ⟨items, hitems⟩ := hlist name hrest
    refine ⟨items, ?_⟩
    rw [bindings_bindAll h hsorted, hbinds.first name _ hitems]
    simp

/-- The bindings by position. -/
theorem bindsFormals_positional (h : id < store.scopes.size) (params args : List Value)
    (rest : Option String) :
    (store.bindAll id (positionalBindings params rest args)).BindsFormals id params rest := by
  constructor
  · intro name hname
    obtain ⟨value, hmem⟩ := mem_positionalFixed hname args
    have hentry : (name, value) ∈ (positionalBindings params rest args).filter
        fun entry => entry.1 = name :=
      List.mem_filter.mpr ⟨List.mem_append_left _ hmem, decide_eq_true rfl⟩
    rw [bindings_bindAll_filter h]
    intro hempty
    have hnone := List.map_eq_nil_iff.mp (List.append_eq_nil_iff.mp hempty).2
    rw [hnone] at hentry
    cases hentry
  · rintro name rfl
    -- the rest is bound last, so it hides a symbol of the same name
    refine ⟨args.drop (Shape.splitRest params).1.length, ?_⟩
    rw [bindings_bindAll_filter h, positionalBindings, List.filter_append]
    simp

end Store

/-- Binding the arguments of a call binds its parameters, whatever the arguments are. -/
theorem bindArguments_bindsFormals {params : List Value} {rest : Option String}
    (hrest : Shape.restName params = .ok rest) (args : List Value) {inner : ScopeId}
    (world : World) (hinner : inner < world.store.scopes.size) :
    ∃ after, (bindArguments inner params rest args).outcome world = (.ok (), after) ∧
      after.store.BindsFormals inner params rest := by
  unfold bindArguments
  split
  · next found hmatch =>
    refine ⟨_, Run.outcome_bindAll inner found world, ?_⟩
    rcases Option.or_eq_some_iff.mp hmatch with hflat | ⟨-, hpassed⟩
    · exact Store.bindsFormals_matched hinner hrest hflat
    · exact Store.bindsFormals_matched hinner hrest hpassed
  · refine ⟨_, (Run.outcome_bind_ok (Run.outcome_emit _ world)).trans
      (Run.outcome_bindAll inner _ _), ?_⟩
    exact Store.bindsFormals_positional hinner params args rest

/-- A part of a value that belongs to a store that is a closure has the rest parameter of its
parameters. -/
theorem Value.Belongs.restName {host : Host} {size : Nat} {value body : Value}
    {params : List Value} {rest : Option String} {scope : ScopeId} (h : value.Belongs host size)
    (hpart : (Value.closure params rest body scope).Within value) :
    Shape.restName params = .ok rest :=
  (h _ hpart).1

/-- Every call binds every plain binder. Let a session begin afresh, with functions of a host that
make up no references, and let it be asked for anything. Then every closure in a value that is bound
in some scope, or that the evaluation of an expression returns, has the rest parameter that its
parameters say.

A call of a closure of that kind, with any arguments whatever, binds in the scope made for it every
symbol among its parameters before the first rest marker, and its rest parameter to a list; and its
body runs in the store so made. -/
theorem call_binds_every_binder (host : Host) {start session : Session}
    (hwithin : host.StaysWithin (Standard.host ++ host)) (hfresh : start.IsFresh host)
    (hreaches : start.Reaches session) :
    (∀ id name, ∀ binding ∈ (session.store.scope id).bindings name,
      ∀ params rest body scope, (Value.closure params rest body scope).Within binding.value →
        Shape.restName params = .ok rest) ∧
    (∀ environment expr value,
      expr.Belongs session.interpreter.host session.store.scopes.size →
      (session.evaluate environment expr).1.result = .ok value →
      ∀ params rest body scope, (Value.closure params rest body scope).Within value →
        Shape.restName params = .ok rest) ∧
    ∀ params rest, Shape.restName params = .ok rest → ∀ (outer : ScopeId) args world,
      ∃ after,
        (Run.newScope outer >>= fun inner => bindArguments inner params rest args).outcome world =
          (.ok (), after) ∧
        after.store.BindsFormals world.store.scopes.size params rest ∧
        ∀ (stage : Stage) body scope,
          (stage.applyCallable (.closure params rest body outer) args scope).outcome world =
            (Run.mapError (fun error => stage.interpreter.annotate error (.inFunction body))
              (stage.lower.body body world.store.scopes.size)).outcome after := by
  have hall := Session.staysWithin_append hwithin
  have hsession := hfresh.coherent.reaches hall hreaches
  refine ⟨?_, ?_, ?_⟩
  · intro id name binding hmem params rest body scope hpart
    exact (hsession.store.values id name binding hmem).restName hpart
  · intro environment expr value hexpr hvalue params rest body scope hpart
    rw [hsession.interpreter_eq] at hexpr
    exact ((hsession.evaluate hall environment hexpr).value value hvalue).restName hpart
  · intro params rest hrest outer args world
    have hinner : world.store.scopes.size < (world.store.addChild outer).2.scopes.size := by
      rw [Store.size_addChild]
      omega
    obtain ⟨after, hbound, hbinds⟩ := bindArguments_bindsFormals hrest args
      ⟨(world.store.addChild outer).2, world.events⟩ hinner
    have hscope := Run.outcome_newScope outer world
    refine ⟨after, (Run.outcome_bind_ok hscope).trans hbound, hbinds, fun stage body scope => ?_⟩
    exact (Run.outcome_bind_ok hscope).trans (Run.outcome_bind_ok hbound)

end AnyEngine

/-- A session in which a function was defined whose rest parameter has the name of another. -/
def sameNameSession : Session :=
  (Session.bare []).perform (.evaluate 0
    (.list [.sym "def", .list [.sym "f", .sym "x", .sym "...", .sym "x"], .sym "x"]))

/-- The definition refers to nothing. -/
theorem reaches_sameNameSession : (Session.bare []).Reaches sameNameSession := by
  refine .step .refl (Value.belongs_list.mpr ?_)
  simp only [List.forall_mem_cons, List.not_mem_nil, false_implies, implies_true, and_true]
  exact ⟨Value.belongs_sym _, Value.belongs_symbols ["f", "x", "...", "x"], Value.belongs_sym _⟩

/-- Called without arguments the function finds nothing for its first parameter and binds by
position; its own scope has the name, bound to a list. -/
theorem call_binds_every_binder_of_same_name :
    (sameNameSession.store.scope 0).bindings "f" =
      [⟨.closure [.sym "x", .sym "...", .sym "x"] (some "x") (.sym "x") 0, {}⟩] ∧
    ∃ after, (Run.newScope 0 >>= fun inner =>
        bindArguments inner [.sym "x", .sym "...", .sym "x"] (some "x") []).outcome
          ⟨sameNameSession.store, #[]⟩ = (.ok (), after) ∧
      after.store.BindsFormals 1 [.sym "x", .sym "...", .sym "x"] (some "x") := by
  obtain ⟨hstored, -, hcalls⟩ :=
    call_binds_every_binder [] (List.forall_mem_nil _) .bare reaches_sameNameSession
  have hbindings : (sameNameSession.store.scope 0).bindings "f" =
      [⟨.closure [.sym "x", .sym "...", .sym "x"] (some "x") (.sym "x") 0, {}⟩] := rfl
  have hrest := hstored 0 "f" _ (hbindings ▸ List.mem_cons_self) _ _ _ _ (.self _)
  obtain ⟨after, hbound, hbinds, -⟩ := hcalls _ _ hrest 0 [] ⟨sameNameSession.store, #[]⟩
  exact ⟨hbindings, after, hbound, hbinds⟩

end ShapeLisp
