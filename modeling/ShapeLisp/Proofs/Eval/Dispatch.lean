import ShapeLisp.Proofs.Eval.Outcome
import ShapeLisp.Proofs.Scope.Store
import ShapeLisp.Proofs.Shape.Bindings
import ShapeLisp.Regex.Engine

/-!
# Dispatch and binding agree

A call of a name chooses among the bindings of the name by matching, and binds the arguments of
the chosen closure by matching again. Both matches see the spread arguments first. So when some
closure matches them, the first such closure is called and its scope holds the bindings of that
match and nothing else; neither the arguments as they are nor their positions matter.
-/

namespace ShapeLisp

section AnyEngine

variable [Regex.Engine]

/-! ### Choosing a binding -/

namespace Store

variable {store : Store} {name : String} {args : List Value}

/-- The candidates for a name are the bindings in the nearest scope that binds it. -/
theorem candidates?_eq_some {nearer farther : List ScopeId} {near : ScopeId}
    (hnearer : ∀ id ∈ nearer, (store.scope id).bindings name = [])
    (hnear : (store.scope near).bindings name ≠ []) :
    store.candidates? name (nearer ++ near :: farther) =
      some ((store.scope near).bindings name) := by
  induction nearer with
  | nil =>
    rw [List.nil_append, candidates?]
    split
    · next hempty => exact absurd hempty hnear
    · rfl
  | cons id rest ih =>
    rw [List.cons_append, candidates?, hnearer id (List.mem_cons_self ..)]
    exact ih fun other hmem => hnearer other (List.mem_cons_of_mem _ hmem)

/-- The first binding that matches is chosen. -/
theorem choose_first {before after : List Binding} {binding : Binding}
    (hbefore : ∀ earlier ∈ before, matchesArgs args earlier = false)
    (hbinding : matchesArgs args binding = true) :
    choose args (before ++ binding :: after) =
      some (binding, .matched before.length (before ++ binding :: after).length) := by
  have hindex : (before ++ binding :: after).findIdx? (matchesArgs args) = some before.length := by
    rw [List.findIdx?_append, List.findIdx?_eq_none_iff.mpr hbefore, List.findIdx?_cons,
      if_pos hbinding]
    simp
  rw [choose, hindex]
  simp

/-- Bindings that match are closures with matching parameters. -/
theorem matchesArgs_eq_true {binding : Binding} (h : matchesArgs args binding = true) :
    ∃ params rest body outer bindings, binding.value = .closure params rest body outer ∧
      Shape.matchParams params args = some bindings := by
  unfold matchesArgs at h
  split at h
  · next params rest body outer hvalue =>
    obtain ⟨bindings, hbindings⟩ := Option.isSome_iff_exists.mp h
    exact ⟨params, rest, body, outer, bindings, hvalue, hbindings⟩
  · cases h

/-! ### The scope of a call -/

/-- Binds names one after the other. -/
def bindAll (store : Store) (id : ScopeId) (bindings : List (String × Value)) : Store :=
  bindings.foldl (fun store (name, value) => store.bind id name ⟨value, {}⟩) store

/-- The store in which a call runs: the store before it with one more scope. The new scope stands
inside the scope that the closure was made in and holds exactly the bindings of the match. -/
structure OpensCall (before : Store) (outer : ScopeId) (bindings : Shape.Bindings)
    (after : Store) : Prop where
  /-- There is one more scope. -/
  size : after.scopes.size = before.scopes.size + 1
  /-- The other scopes are as they were. -/
  others : ∀ id < before.scopes.size, after.scope id = before.scope id
  /-- The new scope stands inside the scope of the closure. -/
  outer_eq : (after.scope before.scopes.size).outer = before.chain outer
  /-- A name is bound once to what the match binds it to, and else not at all. -/
  exactly : ∀ name, (after.scope before.scopes.size).bindings name =
    ((bindings.find? name).map fun value => ⟨value, {}⟩).toList

/-- Binding names makes no scope. -/
@[simp]
theorem size_bindAll (store : Store) (id : ScopeId) (bindings : List (String × Value)) :
    (store.bindAll id bindings).scopes.size = store.scopes.size := by
  induction bindings generalizing store with
  | nil => rfl
  | cons binding rest ih =>
    rw [bindAll, List.foldl_cons, ← bindAll, ih, size_bind]

/-- Binding names leaves the other scopes alone. -/
theorem scope_bindAll_of_ne {id other : ScopeId} (hne : other ≠ id) (store : Store)
    (bindings : List (String × Value)) :
    (store.bindAll id bindings).scope other = store.scope other := by
  induction bindings generalizing store with
  | nil => rfl
  | cons binding rest ih =>
    rw [bindAll, List.foldl_cons, ← bindAll, ih, scope_bind_of_ne _ hne]

/-- Binding names leaves the scopes around alone. -/
theorem outer_bindAll {id : ScopeId} (h : id < store.scopes.size)
    (bindings : List (String × Value)) :
    ((store.bindAll id bindings).scope id).outer = (store.scope id).outer := by
  induction bindings generalizing store with
  | nil => rfl
  | cons binding rest ih =>
    rw [bindAll, List.foldl_cons, ← bindAll, ih (by rwa [size_bind]), scope_bind_self _ h,
      Scope.outer_bind]

/-- Names in order get one binding each. -/
theorem bindings_bindAll {id : ScopeId} (h : id < store.scopes.size) {bindings : Shape.Bindings}
    (hsorted : bindings.Sorted) (name : String) :
    ((store.bindAll id bindings).scope id).bindings name = (store.scope id).bindings name ++
      ((bindings.find? name).map fun value => ⟨value, {}⟩).toList := by
  induction bindings generalizing store with
  | nil => simp [bindAll, Keyed.find?]
  | cons binding rest ih =>
    obtain ⟨key, value⟩ := binding
    obtain ⟨hkey, hrest⟩ := List.pairwise_cons.mp hsorted
    rw [bindAll, List.foldl_cons, ← bindAll, ih (by rwa [size_bind]) hrest, scope_bind_self _ h,
      Keyed.find?]
    by_cases hname : key = name
    · subst hname
      have hnone : Keyed.find? rest key = none :=
        Keyed.find?_eq_none fun hmem => lt_irrefl key (hkey key hmem)
      rw [Scope.bindings_bind_self, hnone, if_pos rfl]
      simp
    · rw [Scope.bindings_bind_of_ne (Ne.symm hname), if_neg hname]

/-- Binding the bindings of a match in a new scope opens a call. -/
theorem opensCall_bindAll (store : Store) (outer : ScopeId) {bindings : Shape.Bindings}
    (hsorted : bindings.Sorted) :
    store.OpensCall outer bindings
      ((store.addChild outer).2.bindAll store.scopes.size bindings) := by
  have hnew : store.scopes.size < (store.addChild outer).2.scopes.size := by
    rw [size_addChild]
    omega
  constructor
  · rw [size_bindAll, size_addChild]
  · intro id hid
    rw [scope_bindAll_of_ne (Nat.ne_of_lt hid), scope_addChild_of_lt _ _ hid]
  · rw [outer_bindAll hnew, scope_addChild_size]
  · intro name
    rw [bindings_bindAll hnew hsorted, scope_addChild_size]
    rfl

end Store

/-- Binding names goes through the store. -/
theorem Run.outcome_bindAll (scope : ScopeId) (bindings : List (String × Value)) (world : World) :
    (bindAll scope bindings).outcome world =
      (.ok (), ⟨world.store.bindAll scope bindings, world.events⟩) := by
  induction bindings generalizing world with
  | nil => rfl
  | cons binding rest ih =>
    obtain ⟨name, value⟩ := binding
    rw [bindAll, outcome_bind_ok (outcome_runBind scope name value world), ih]
    rfl

/-! ### Calls -/

/-- Spread arguments that hold no list stay as they are when they are spread again. -/
theorem flatten_flatten {args : List Value}
    (h : ∀ items, .list items ∈ args → ∀ inner, .list inner ∉ items) :
    flatten (flatten args) = flatten args := by
  have hflat : ∀ value ∈ flatten args, ∀ inner, value ≠ .list inner := by
    intro value hmem inner hlist
    subst hlist
    obtain ⟨arg, harg, hvalue⟩ := List.mem_flatMap.mp hmem
    split at hvalue
    · next items => exact h items harg inner hvalue
    · next hother => exact hother inner (List.mem_singleton.mp hvalue).symm
  generalize flatten args = spread at hflat
  induction spread with
  | nil => rfl
  | cons value rest ih =>
    have hrest := ih fun other hmem => hflat other (List.mem_cons_of_mem _ hmem)
    unfold flatten at hrest ⊢
    rw [List.flatMap_cons, hrest]
    split
    · next items => exact absurd rfl (hflat _ (List.mem_cons_self ..) items)
    · rfl

namespace Stage

variable (stage : Stage) {world : World} {name : String} {args : List Value} {scope : ScopeId}

/-- A call of a closure whose parameters match the spread arguments runs its body in a scope with
the bindings of that match. -/
theorem outcome_applyCallable_closure {params : List Value} {rest : Option String} {body : Value}
    {outer : ScopeId} {bindings : Shape.Bindings}
    (hmatch : Shape.matchParams params (flatten args) = some bindings) :
    (stage.applyCallable (.closure params rest body outer) args scope).outcome world =
      (Run.mapError (fun error => stage.interpreter.annotate error (.inFunction body))
        (stage.lower.body body world.store.scopes.size)).outcome
        ⟨(world.store.addChild outer).2.bindAll world.store.scopes.size bindings,
          world.events⟩ := by
  have hbound : matchedBindings? params args = some bindings := by
    rw [matchedBindings?, hmatch, Option.some_or]
  rw [applyCallable, Run.outcome_bind_ok (Run.outcome_newScope outer world), bindArguments, hbound]
  exact Run.outcome_bind_ok (Run.outcome_bindAll ..)

/-- A call of a name applies the binding that it finds, and notes how it was found. -/
theorem outcome_dispatch_of_found (world : World) {binding : Binding} {how : Dispatch}
    (hfound : world.store.dispatch scope name (flatten args) = .ok (binding, how)) :
    (stage.dispatch name args scope).outcome world =
      (stage.applyResolved name binding.value args scope).outcome
        ⟨world.store, world.events.push (.dispatched name how)⟩ := by
  have hchosen := Run.outcome_dispatch scope name (flatten args) world
  rw [hfound] at hchosen
  rw [dispatch, Run.outcome_bind_ok hchosen]

/-- A call of a name whose nearest bindings have a first closure that matches the spread arguments
calls that closure. -/
theorem outcome_dispatch_first {nearer farther : List ScopeId} {near : ScopeId}
    (hchain : world.store.chain scope = nearer ++ near :: farther)
    (hnearer : ∀ id ∈ nearer, (world.store.scope id).bindings name = [])
    {before after : List Binding} {binding : Binding}
    (hcandidates : (world.store.scope near).bindings name = before ++ binding :: after)
    (hbefore : ∀ earlier ∈ before, Store.matchesArgs (flatten args) earlier = false)
    {params : List Value} {rest : Option String} {body : Value} {outer : ScopeId}
    {bindings : Shape.Bindings} (hvalue : binding.value = .closure params rest body outer)
    (hmatch : Shape.matchParams params (flatten args) = some bindings) :
    (stage.dispatch name args scope).outcome world =
      (Run.mapError (fun error => stage.interpreter.annotate error (.inFunction body))
        (stage.lower.body body world.store.scopes.size)).outcome
        ⟨(world.store.addChild outer).2.bindAll world.store.scopes.size bindings,
          world.events.push (.dispatched name (.matched before.length
            (before ++ binding :: after).length))⟩ := by
  have hbinding : Store.matchesArgs (flatten args) binding = true := by
    rw [Store.matchesArgs, hvalue]
    simp only [hmatch, Option.isSome_some]
  have hnear : (world.store.scope near).bindings name ≠ [] := by
    rw [hcandidates]
    simp
  have hfound : world.store.dispatch scope name (flatten args) =
      .ok (binding, .matched before.length (before ++ binding :: after).length) := by
    rw [Store.dispatch, hchain, Store.candidates?_eq_some hnearer hnear, Option.bind_some,
      hcandidates, Store.choose_first hbefore hbinding]
  have hresolved : stage.applyResolved name (.closure params rest body outer) args scope =
      stage.applyCallable (.closure params rest body outer) args scope := rfl
  rw [outcome_dispatch_of_found stage world hfound, hvalue, hresolved]
  exact outcome_applyCallable_closure stage hmatch

end Stage

/-- Dispatch and binding agree. Let some closure in the nearest scope that binds a name match the
spread arguments. Then a call of the name runs the body of the first such closure, in the order of
definition, in a new scope inside the scope that this closure was made in; the new scope holds
exactly the bindings of the match. When no list among the arguments holds a list, the call with the
spread arguments returns the same value or error and leaves the same world. -/
theorem dispatch_and_binding_agree (stage : Stage) (world : World) (name : String)
    (args : List Value) (scope : ScopeId) (nearer farther : List ScopeId) (near : ScopeId)
    (hchain : world.store.chain scope = nearer ++ near :: farther)
    (hnearer : ∀ id ∈ nearer, (world.store.scope id).bindings name = [])
    (hsome : ∃ binding ∈ (world.store.scope near).bindings name,
      Store.matchesArgs (flatten args) binding = true) :
    (∃ before params rest body outer options after bindings called,
      (world.store.scope near).bindings name =
        before ++ ⟨.closure params rest body outer, options⟩ :: after ∧
      (∀ earlier ∈ before, Store.matchesArgs (flatten args) earlier = false) ∧
      Shape.matchParams params (flatten args) = some bindings ∧
      world.store.OpensCall outer bindings called ∧
      (stage.dispatch name args scope).outcome world =
        (Run.mapError (fun error => stage.interpreter.annotate error (.inFunction body))
          (stage.lower.body body world.store.scopes.size)).outcome
          ⟨called, world.events.push (.dispatched name (.matched before.length
            ((world.store.scope near).bindings name).length))⟩) ∧
    ((∀ items, .list items ∈ args → ∀ inner, .list inner ∉ items) →
      (stage.dispatch name (flatten args) scope).outcome world =
        (stage.dispatch name args scope).outcome world) := by
  obtain ⟨found, hfound, hmatches⟩ := hsome
  obtain ⟨binding, hbinding⟩ := Option.isSome_iff_exists.mp
    (List.find?_isSome.mpr ⟨found, hfound, hmatches⟩)
  obtain ⟨hmatched, before, after, hcandidates, hbefore⟩ :=
    List.find?_eq_some_iff_append.mp hbinding
  have hearlier : ∀ earlier ∈ before, Store.matchesArgs (flatten args) earlier = false :=
    fun earlier hmem => by simpa using hbefore earlier hmem
  obtain ⟨params, rest, body, outer, bindings, hvalue, hmatch⟩ :=
    Store.matchesArgs_eq_true hmatched
  have hcall := Stage.outcome_dispatch_first stage hchain hnearer hcandidates hearlier
    hvalue hmatch
  constructor
  · obtain ⟨value, options⟩ := binding
    subst hvalue
    refine ⟨before, params, rest, body, outer, options, after, bindings, _, hcandidates, hearlier,
      hmatch, world.store.opensCall_bindAll outer (Shape.sorted_matchParams hmatch), ?_⟩
    rw [hcall, hcandidates]
  · intro hflat
    have hspread := flatten_flatten hflat
    rw [hcall, Stage.outcome_dispatch_first stage hchain hnearer hcandidates
      (by rwa [hspread]) hvalue (by rwa [hspread])]

end AnyEngine

/-- A store whose only scope binds a name to two closures, one for a text and one for any pair. -/
def twoClosures : Store :=
  ⟨#[⟨[], [("f", [⟨.closure [.str "a"] none (.str "text") 0, {}⟩,
    ⟨.closure [.sym "x", .sym "y"] none (.sym "y") 0, {}⟩])]⟩]⟩

/-- A pair in a list chooses the second closure, and the call is that of the two items. -/
theorem dispatch_and_binding_agree_of_pair :
    (Stage.dispatch ⟨.silent [], (Interpreter.silent []).level 2⟩ "f"
      (flatten [.list [.str "a", .str "b"]]) 0).outcome ⟨twoClosures, #[]⟩ =
    (Stage.dispatch ⟨.silent [], (Interpreter.silent []).level 2⟩ "f"
      [.list [.str "a", .str "b"]] 0).outcome ⟨twoClosures, #[]⟩ := by
  have hpair : ∃ binding ∈ (twoClosures.scope 0).bindings "f",
      Store.matchesArgs (flatten [.list [.str "a", .str "b"]]) binding = true :=
    ⟨⟨.closure [.sym "x", .sym "y"] none (.sym "y") 0, {}⟩, .tail _ (.head _), by decide⟩
  exact (dispatch_and_binding_agree ⟨.silent [], (Interpreter.silent []).level 2⟩
    ⟨twoClosures, #[]⟩ "f" [.list [.str "a", .str "b"]] 0 [] [] 0 rfl (by simp) hpair).2 (by simp)

end ShapeLisp
