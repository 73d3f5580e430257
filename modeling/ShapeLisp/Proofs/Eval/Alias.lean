import ShapeLisp.Proofs.Eval.Dispatch
import ShapeLisp.Proofs.Eval.Missing
import ShapeLisp.Proofs.Scope.Alias
import ShapeLisp.Regex.Engine

/-!
# Names that stand for names, and the depth limit

The value of a name and a call of a name follow names in two different ways. Looking the value up
goes on to the next name one level deeper; a call chooses among the bindings of each name by its
arguments, notes what it does, and calls the next name one level deeper. Both come to the same name
after as many levels, so both end where the way from the name ends when that is above the depth
limit, and both fail at the limit when it is not. A call agrees with the way only where its
arguments have no choice, which is where each name on the way has a single binding.
-/

namespace ShapeLisp

section AnyEngine

variable [Regex.Engine]

/-! ### The value of a name -/

/-- How the value of a name ends when so many steps can be taken from the name. -/
inductive Store.EndsAs (store : Store) (scope : ScopeId) (name : String) (left : Nat) :
    Except Error Value → Prop where
  /-- With the value that the name leads to. -/
  | value {steps : Nat} {last : String} {value : Value} (hsteps : steps ≤ left)
      (h : store.LeadsTo scope name steps last value) : EndsAs store scope name left (.ok value)
  /-- With the name that is not bound, when it leads to one. -/
  | nowhere {steps : Nat} {last : String} (hsteps : steps ≤ left)
      (h : store.LeadsNowhere scope name steps last) :
      EndsAs store scope name left (.error (.undefinedSymbol last))
  /-- At the limit, when it leads on. -/
  | beyond (h : store.GoesBeyond scope name (left + 1)) :
      EndsAs store scope name left (.error (.of .depthExceeded))

namespace Stage

variable {interpreter : Interpreter} {scope : ScopeId} {name last : String} {world : World}
  {steps left : Nat}

/-- A name that stands for another one is resolved one level deeper. -/
theorem outcome_resolve_of_target {stage : Stage}
    (h : world.store.target? scope name = some last) :
    (stage.resolve name scope).outcome world = (stage.lower.resolve last scope).outcome world := by
  obtain ⟨options, hfound⟩ := Store.target?_eq_some_iff.mp h
  rw [resolve, Run.outcome_bind_ok (Run.outcome_lookup_of_eq hfound)]

/-- A name that is bound to a value which is not a name. -/
theorem outcome_resolve_of_value {stage : Stage} {value : Value} {options : BindingOptions}
    (hfound : world.store.lookup scope name = .ok ⟨value, options⟩)
    (hvalue : ∀ target, value ≠ .sym target) :
    (stage.resolve name scope).outcome world = (.ok value, world) := by
  rw [resolve, Run.outcome_bind_ok (Run.outcome_lookup_of_eq hfound)]
  cases value with
  | sym target => exact absurd rfl (hvalue target)
  | _ => rfl

/-- The value of a name is that of every name on the way from it, as many levels deeper. -/
theorem outcome_resolve_nameAfter? (hsteps : steps ≤ left)
    (hlast : world.store.nameAfter? scope name steps = some last) :
    (Stage.resolve ⟨interpreter, interpreter.level left⟩ name scope).outcome world =
      (Stage.resolve ⟨interpreter, interpreter.level (left - steps)⟩ last scope).outcome world := by
  induction steps generalizing last with
  | zero =>
    obtain rfl := Option.some.inj hlast
    rfl
  | succ steps ih =>
    obtain ⟨passed, hpassed, htarget⟩ := Store.nameAfter?_succ_eq_some hlast
    have hlevel : left - steps = left - (steps + 1) + 1 := by omega
    rw [ih (Nat.le_of_succ_le hsteps) hpassed, hlevel, outcome_resolve_of_target htarget,
      Interpreter.level_succ]

/-- A name that leads to a value has the value. -/
theorem outcome_resolve_of_leadsTo {value : Value} (hsteps : steps ≤ left)
    (h : world.store.LeadsTo scope name steps last value) :
    (Stage.resolve ⟨interpreter, interpreter.level left⟩ name scope).outcome world =
      (.ok value, world) := by
  obtain ⟨options, hfound⟩ := h.found
  rw [outcome_resolve_nameAfter? hsteps h.reached, outcome_resolve_of_value hfound h.final]

/-- A name that leads to one that is not bound fails for that one. -/
theorem outcome_resolve_of_leadsNowhere (hsteps : steps ≤ left)
    (h : world.store.LeadsNowhere scope name steps last) :
    (Stage.resolve ⟨interpreter, interpreter.level left⟩ name scope).outcome world =
      (.error (.undefinedSymbol last), world) := by
  rw [outcome_resolve_nameAfter? hsteps h.reached, outcome_resolve_of_unbound h.unbound]

/-- A name from which the way goes on when no level is left fails at the limit. -/
theorem outcome_resolve_of_goesBeyond (h : world.store.GoesBeyond scope name (left + 1)) :
    (Stage.resolve ⟨interpreter, interpreter.level left⟩ name scope).outcome world =
      (.error (.of .depthExceeded), world) := by
  obtain ⟨further, hfurther⟩ := Store.goesBeyond_iff.mp h
  obtain ⟨passed, hpassed, htarget⟩ := Store.nameAfter?_succ_eq_some hfurther
  rw [outcome_resolve_nameAfter? (Nat.le_refl left) hpassed, Nat.sub_self,
    outcome_resolve_of_target htarget]
  rfl

/-- Resolving a name leaves the world as it is and ends as the way from the name does. -/
theorem resolve_ends (interpreter : Interpreter) (scope : ScopeId) (name : String) (world : World)
    (left : Nat) :
    let resolved := (Stage.resolve ⟨interpreter, interpreter.level left⟩ name scope).outcome world
    resolved.2 = world ∧ world.store.EndsAs scope name left resolved.1 := by
  cases world.store.way scope name (left + 1) with
  | value hsteps h =>
    have hle := Nat.le_of_lt_succ hsteps
    rw [outcome_resolve_of_leadsTo hle h]
    exact ⟨rfl, .value hle h⟩
  | nowhere hsteps h =>
    have hle := Nat.le_of_lt_succ hsteps
    rw [outcome_resolve_of_leadsNowhere hle h]
    exact ⟨rfl, .nowhere hle h⟩
  | further h =>
    have hbeyond := Store.goesBeyond_iff.mpr ⟨_, h⟩
    rw [outcome_resolve_of_goesBeyond hbeyond]
    exact ⟨rfl, .beyond hbeyond⟩

/-- A name has a value exactly when it leads to the value above the limit. -/
theorem resolve_eq_ok_iff {value : Value} :
    ((Stage.resolve ⟨interpreter, interpreter.level left⟩ name scope).outcome world).1 =
        .ok value ↔
      ∃ steps last, steps ≤ left ∧ world.store.LeadsTo scope name steps last value := by
  constructor
  · intro hresolved
    have hends := (resolve_ends interpreter scope name world left).2
    rw [hresolved] at hends
    cases hends with
    | value hsteps h => exact ⟨_, _, hsteps, h⟩
  · rintro ⟨steps, last, hsteps, h⟩
    rw [outcome_resolve_of_leadsTo hsteps h]

/-- The value of a name is missing exactly when the name leads to one above the limit that is not
bound. -/
theorem resolve_eq_undefined_iff :
    ((Stage.resolve ⟨interpreter, interpreter.level left⟩ name scope).outcome world).1 =
        .error (.undefinedSymbol last) ↔
      ∃ steps, steps ≤ left ∧ world.store.LeadsNowhere scope name steps last := by
  constructor
  · intro hresolved
    have hends := (resolve_ends interpreter scope name world left).2
    rw [hresolved] at hends
    cases hends with
    | nowhere hsteps h => exact ⟨_, hsteps, h⟩
  · rintro ⟨steps, hsteps, h⟩
    rw [outcome_resolve_of_leadsNowhere hsteps h]

/-- Resolving a name fails at the limit exactly when the way from it goes on there. -/
theorem resolve_eq_exceeded_iff :
    ((Stage.resolve ⟨interpreter, interpreter.level left⟩ name scope).outcome world).1 =
        .error (.of .depthExceeded) ↔
      world.store.GoesBeyond scope name (left + 1) := by
  constructor
  · intro hresolved
    have hends := (resolve_ends interpreter scope name world left).2
    rw [hresolved] at hends
    cases hends with
    | beyond h => exact h
  · intro h
    rw [outcome_resolve_of_goesBeyond h]

end Stage

/-! ### A call of a name -/

/-- Whether an event notes how a call was resolved. -/
def Event.isResolution : Event → Bool
  | .dispatched .. | .calledUnevaluated _ | .aliasFollowed .. => true
  | _ => false

/-- From the first world to the second nothing has happened except that a call was resolved. -/
inductive World.Resolving (start : World) : World → Prop where
  /-- Nothing has happened. -/
  | refl : Resolving start start
  /-- A step of the resolution is noted. -/
  | note {now : World} {event : Event} : Resolving start now → event.isResolution = true →
    Resolving start ⟨now.store, now.events.push event⟩

namespace World.Resolving

variable {start middle now : World}

/-- The resolution of a call leaves the store as it is. -/
theorem store_eq (h : start.Resolving now) : now.store = start.store := by
  induction h with
  | refl => rfl
  | note _ _ ih => exact ih

/-- A resolution that goes on. -/
theorem trans (first : start.Resolving middle) (second : middle.Resolving now) :
    start.Resolving now := by
  induction second with
  | refl => exact first
  | note _ hevent ih => exact .note ih hevent

end World.Resolving

/-- What a call of a name passes on, and the world from which it is resolved. -/
inductive Interpreter.Passes (interpreter : Interpreter) (depth : Nat) (scope : ScopeId)
    (name : String) (args : List Value) (world : World) : List Value → World → Prop where
  /-- The arguments are evaluated, and they define nothing in the scope and those around it. -/
  | evaluated {binding : Binding} {values : List Value} {after : World}
      (hfound : world.store.lookup scope name = .ok binding)
      (heager : binding.options.skipArgs = false)
      (hvalues : (Operand.runAll scope
        (Operand.ofExprs (interpreter.evalAt depth) args)).outcome world = (.ok values, after))
      (hsame : world.store.SameAround scope after.store) :
      Passes interpreter depth scope name args world values after
  /-- The arguments stay as they are written, when the binding wants them so or there is none. -/
  | written (hskip : ∀ binding, world.store.lookup scope name = .ok binding →
        binding.options.skipArgs = true) :
      Passes interpreter depth scope name args world args world

namespace Stage

variable {interpreter : Interpreter} {scope : ScopeId} {name last : String} {args : List Value}
  {store : Store} {world : World} {steps left : Nat}

/-- A call that has found the binding of a name comes, as many levels deeper, to the binding of
every bound name on the way from it. -/
theorem outcome_applyResolved_nameAfter? (hsingle : store.Unambiguous scope name)
    {binding final : Binding} (hfirst : store.lookup scope name = .ok binding)
    (hsteps : steps ≤ left) (hlast : store.nameAfter? scope name steps = some last)
    (hfinal : store.lookup scope last = .ok final)
    (hsame : store.SameAround scope world.store) :
    ∃ now, world.Resolving now ∧
      (Stage.applyResolved ⟨interpreter, interpreter.level left⟩ name binding.value args
          scope).outcome world =
        (Stage.applyResolved ⟨interpreter, interpreter.level (left - steps)⟩ last final.value args
          scope).outcome now := by
  induction steps generalizing last final with
  | zero =>
    obtain rfl := Option.some.inj hlast
    obtain rfl := Except.ok.inj (hfirst.symm.trans hfinal)
    exact ⟨world, .refl, rfl⟩
  | succ steps ih =>
    obtain ⟨passed, hpassed, htarget⟩ := Store.nameAfter?_succ_eq_some hlast
    obtain ⟨options, hfound⟩ := Store.target?_eq_some_iff.mp htarget
    obtain ⟨now, hnow, heq⟩ := ih (Nat.le_of_succ_le hsteps) hpassed hfound
    obtain ⟨how, hchosen⟩ := Store.dispatch_of_single hfinal
      (fun near hnear => hsingle _ last near hlast hnear) (flatten args)
    have hlevel : left - steps = left - (steps + 1) + 1 := by omega
    rw [hlevel, outcome_applyResolved_sym] at heq
    rw [← hsame.dispatch_eq, ← hnow.store_eq] at hchosen
    exact ⟨_, (hnow.note rfl).note rfl, heq.trans (outcome_dispatch_of_found _ _ hchosen)⟩

/-- A call of a bound name applies its binding to what it passes on. -/
theorem outcome_call_of_passes {depth : Nat} {passed : List Value} {started : World}
    (hpasses : interpreter.Passes depth scope name args world passed started)
    (hsingle : world.store.Unambiguous scope name) {binding : Binding}
    (hfound : world.store.lookup scope name = .ok binding) :
    world.store.SameAround scope started.store ∧ ∃ now, started.Resolving now ∧
      ((interpreter.stageAt depth).call name (Operand.ofExprs (interpreter.evalAt depth) args)
          scope).outcome world =
        ((interpreter.stageAt depth).applyResolved name binding.value passed scope).outcome now := by
  rw [call, Run.outcome_bind_ok (Run.outcome_lookup_of_eq hfound)]
  cases hpasses with
  | @evaluated other _ _ hother heager hvalues hsame =>
    obtain rfl := Except.ok.inj (hfound.symm.trans hother)
    obtain ⟨how, hchosen⟩ := Store.dispatch_of_single hfound
      (fun near hnear => hsingle 0 name near rfl hnear) (flatten passed)
    rw [← hsame.dispatch_eq] at hchosen
    rw [heager, if_neg Bool.false_ne_true, Run.outcome_bind_ok hvalues,
      outcome_dispatch_of_found _ _ hchosen]
    exact ⟨hsame, _, .note .refl rfl, rfl⟩
  | written hskip =>
    rw [if_pos (hskip binding hfound), Run.outcome_bind_ok (Run.outcome_emit ..),
      Operand.exprs_ofExprs]
    exact ⟨fun _ _ => rfl, _, .note .refl rfl, rfl⟩

section Call

variable {depth : Nat} {passed : List Value} {started : World}
  (hpasses : interpreter.Passes depth scope name args world passed started)
  (hsingle : world.store.Unambiguous scope name)

include hpasses hsingle

/-- A call of a name comes, as many levels deeper, to the binding of every bound name on the way
from it. -/
theorem outcome_call_nameAfter? (hsteps : steps ≤ maxEvalDepth - (depth + 1))
    (hlast : world.store.nameAfter? scope name steps = some last) {final : Binding}
    (hfinal : world.store.lookup scope last = .ok final) :
    ∃ now, started.Resolving now ∧ world.store.SameAround scope now.store ∧
      ((interpreter.stageAt depth).call name (Operand.ofExprs (interpreter.evalAt depth) args)
          scope).outcome world =
        (Stage.applyResolved
          ⟨interpreter, interpreter.level (maxEvalDepth - (depth + 1) - steps)⟩ last final.value
          passed scope).outcome now := by
  obtain ⟨binding, hfirst⟩ := Store.exists_lookup_of_reached hlast hfinal
  obtain ⟨hsame, begun, hbegun, hcall⟩ := outcome_call_of_passes hpasses hsingle hfirst
  rw [← hbegun.store_eq] at hsame
  obtain ⟨now, hnow, hcomes⟩ :=
    outcome_applyResolved_nameAfter? hsingle hfirst hsteps hlast hfinal hsame
  rw [← hnow.store_eq] at hsame
  exact ⟨now, hbegun.trans hnow, hsame, hcall.trans hcomes⟩

/-- A call of a name that leads to one that is not bound fails for that one, and before it nothing
but the resolution of the call has happened. -/
theorem outcome_call_of_leadsNowhere (hsteps : steps ≤ maxEvalDepth - (depth + 1))
    (h : world.store.LeadsNowhere scope name steps last) :
    ∃ now, started.Resolving now ∧
      ((interpreter.stageAt depth).call name (Operand.ofExprs (interpreter.evalAt depth) args)
          scope).outcome world = (.error (.undefinedSymbol last), now) := by
  cases steps with
  | zero =>
    -- The name itself is not bound, so its arguments are not evaluated.
    obtain rfl := Option.some.inj h.reached
    have hmissing := Store.lookup_eq_error_iff.mpr ⟨h.unbound, rfl⟩
    cases hpasses with
    | evaluated hfound =>
      rw [hmissing] at hfound
      cases hfound
    | written => exact ⟨world, .refl, outcome_call_of_unbound h.unbound _⟩
  | succ steps =>
    obtain ⟨before, hbefore, htarget⟩ := Store.nameAfter?_succ_eq_some h.reached
    obtain ⟨options, hfound⟩ := Store.target?_eq_some_iff.mp htarget
    obtain ⟨now, hnow, hsame, hcall⟩ :=
      outcome_call_nameAfter? hpasses hsingle (Nat.le_of_succ_le hsteps) hbefore hfound
    have hlevel : maxEvalDepth - (depth + 1) - steps =
        maxEvalDepth - (depth + 1) - (steps + 1) + 1 := by omega
    rw [hlevel, outcome_applyResolved_sym] at hcall
    refine ⟨⟨now.store, now.events.push (.aliasFollowed before last)⟩, hnow.note rfl, ?_⟩
    rw [hcall]
    refine outcome_dispatch_of_unbound ?_ passed
    exact hsame.unbound h.unbound

/-- A call of a name from which the way goes on at the limit fails there, and nothing but the
resolution of the call has happened. -/
theorem outcome_call_of_goesBeyond
    (h : world.store.GoesBeyond scope name (maxEvalDepth - (depth + 1) + 1)) :
    ∃ now, started.Resolving now ∧
      ((interpreter.stageAt depth).call name (Operand.ofExprs (interpreter.evalAt depth) args)
          scope).outcome world = (.error (.of .depthExceeded), now) := by
  obtain ⟨further, hfurther⟩ := Store.goesBeyond_iff.mp h
  obtain ⟨before, hbefore, htarget⟩ := Store.nameAfter?_succ_eq_some hfurther
  obtain ⟨options, hfound⟩ := Store.target?_eq_some_iff.mp htarget
  obtain ⟨now, hnow, -, hcall⟩ :=
    outcome_call_nameAfter? hpasses hsingle (Nat.le_refl _) hbefore hfound
  rw [Nat.sub_self] at hcall
  exact ⟨now, hnow, hcall⟩

end Call

end Stage

/-- The list that failed at the depth limit is noted. -/
theorem Error.annotate_depthExceeded (expr : Value) :
    (Error.of .depthExceeded).annotate (.context expr) =
      .eval ⟨.depthExceeded, [.context expr]⟩ := by
  have habsent : Failure.occursIn "\n  Context:".toList
      (Failure.message ⟨.depthExceeded, []⟩).toList = false := by
    change Failure.occursIn _
      s!"Evaluation depth limit exceeded (max: {maxEvalDepth})".toList = false
    decide
  rw [Error.of, annotate, Failure.annotate, Note.label, habsent]
  rfl

namespace Interpreter

variable {host : Host} {depth : Nat} {scope : ScopeId} {name last : String}
  {args passed : List Value} {world started : World} {steps : Nat}
  (hdepth : depth < maxEvalDepth) (hname : Form.ofName? name = none)
  (hpasses : (standard host).Passes depth scope name args world passed started)
  (hsingle : world.store.Unambiguous scope name)

include hdepth hname hpasses hsingle

/-- Calling a name that leads to a value applies the value, as many levels deeper. -/
theorem outcome_evalAt_of_leadsTo {value : Value} (hsteps : depth + steps < maxEvalDepth)
    (h : world.store.LeadsTo scope name steps last value) :
    ∃ now, started.Resolving now ∧
      ((standard host).evalAt depth (.list (.sym name :: args)) scope).outcome world =
        (Run.mapError (fun error => error.annotate (.context (.list (.sym name :: args))))
          (((standard host).stageAt (depth + steps)).applyResolved last value passed
            scope)).outcome now := by
  obtain ⟨options, hfound⟩ := h.found
  obtain ⟨now, hnow, -, hcall⟩ :=
    Stage.outcome_call_nameAfter? hpasses hsingle (by omega) h.reached hfound
  have hlevel : maxEvalDepth - (depth + 1) - steps = maxEvalDepth - (depth + steps + 1) := by omega
  refine ⟨now, hnow, ?_⟩
  rw [evalAt_call hdepth hname, Run.outcome_mapError, Run.outcome_mapError, hcall, hlevel]
  rfl

/-- Calling a name that leads to one that is not bound fails for that one. -/
theorem outcome_evalAt_of_leadsNowhere (hsteps : depth + steps < maxEvalDepth)
    (h : world.store.LeadsNowhere scope name steps last) :
    ∃ now, started.Resolving now ∧
      ((standard host).evalAt depth (.list (.sym name :: args)) scope).outcome world =
        (.error (.undefinedSymbol last), now) := by
  obtain ⟨now, hnow, hcall⟩ :=
    Stage.outcome_call_of_leadsNowhere hpasses hsingle (by omega) h
  refine ⟨now, hnow, ?_⟩
  rw [evalAt_call hdepth hname, Run.outcome_mapError, hcall]
  rfl

/-- Calling a name from which the way goes on at the limit fails there. -/
theorem outcome_evalAt_of_goesBeyond
    (h : world.store.GoesBeyond scope name (maxEvalDepth - depth)) :
    ∃ now, started.Resolving now ∧
      ((standard host).evalAt depth (.list (.sym name :: args)) scope).outcome world =
        (.error (.eval ⟨.depthExceeded, [.context (.list (.sym name :: args))]⟩), now) := by
  have hlimit : maxEvalDepth - depth = maxEvalDepth - (depth + 1) + 1 := by omega
  rw [hlimit] at h
  obtain ⟨now, hnow, hcall⟩ := Stage.outcome_call_of_goesBeyond hpasses hsingle h
  refine ⟨now, hnow, ?_⟩
  rw [evalAt_call hdepth hname, Run.outcome_mapError, hcall, ← Error.annotate_depthExceeded]
  rfl

end Interpreter

/-- Names that stand for names are followed exactly as far as the depth limit allows. Let the way
from a name go to the name that it stands for, and so on while there is one, and let a depth be
below the limit.

The value of the name at the depth is a value exactly when, some steps deeper and still above the
limit, the way comes to a name that is bound to the value and the value is no name; the name fails
for one that is not bound exactly when the way comes to that one above the limit; and in every other
case, in particular when the way comes to a name again, it fails at the limit.

Calling the name, which is not the name of a form, goes as far. Let every name on the way have a
single binding in the nearest scope that binds it, and let the arguments be evaluated without an
error and without defining anything in the scope and those around it, unless the binding of the name
wants them as they are written. Then the call applies the value at the end of the way as many levels
deeper when that is above the limit, and fails at the limit when it is not; it fails for a name that
is not bound where the value does, and at the limit in every other case. Where the call does not
come to a value, nothing has happened but that it was resolved. -/
theorem aliases_followed_within_depth (host : Host) (depth : Nat) (hdepth : depth < maxEvalDepth)
    (scope : ScopeId) (name : String) (world : World) :
    let interpreter := Interpreter.standard host
    let store := world.store
    let resolved := ((interpreter.stageAt depth).resolve name scope).outcome world
    (interpreter.evalAt depth (.sym name) scope = (interpreter.stageAt depth).resolve name scope ∧
      resolved.2 = world ∧
      (∀ value, resolved.1 = .ok value ↔ ∃ steps last,
        depth + steps < maxEvalDepth ∧ store.LeadsTo scope name steps last value) ∧
      (∀ last, resolved.1 = .error (.undefinedSymbol last) ↔ ∃ steps,
        depth + steps < maxEvalDepth ∧ store.LeadsNowhere scope name steps last) ∧
      (resolved.1 = .error (.of .depthExceeded) ↔
        store.GoesBeyond scope name (maxEvalDepth - depth))) ∧
    (∀ steps later again, steps < later → store.nameAfter? scope name steps = some again →
      store.nameAfter? scope name later = some again →
      store.GoesBeyond scope name (maxEvalDepth - depth)) ∧
    ∀ args passed started, Form.ofName? name = none → store.Unambiguous scope name →
      interpreter.Passes depth scope name args world passed started →
      let called := (interpreter.evalAt depth (.list (.sym name :: args)) scope).outcome world
      let note := Note.context (.list (.sym name :: args))
      let exceeded := ∃ now, started.Resolving now ∧
        called = (.error (.eval ⟨.depthExceeded, [note]⟩), now)
      (∀ steps last value, store.LeadsTo scope name steps last value →
        (depth + steps < maxEvalDepth → ∃ now, started.Resolving now ∧
          called = (Run.mapError (fun error => error.annotate note)
            ((interpreter.stageAt (depth + steps)).applyResolved last value passed
              scope)).outcome now) ∧
        (maxEvalDepth ≤ depth + steps → exceeded)) ∧
      (∀ steps last, store.LeadsNowhere scope name steps last → depth + steps < maxEvalDepth →
        ∃ now, started.Resolving now ∧ called = (.error (.undefinedSymbol last), now)) ∧
      (store.GoesBeyond scope name (maxEvalDepth - depth) → exceeded) := by
  have hlimit : maxEvalDepth - depth = maxEvalDepth - (depth + 1) + 1 := by omega
  have hbelow : ∀ steps, depth + steps < maxEvalDepth ↔ steps ≤ maxEvalDepth - (depth + 1) := by
    intro steps
    omega
  refine ⟨⟨Interpreter.evalAt_sym hdepth name, (Stage.resolve_ends ..).1, fun value => ?_,
    fun last => ?_, ?_⟩, ?_, ?_⟩
  · simp only [hbelow]
    exact Stage.resolve_eq_ok_iff
  · simp only [hbelow]
    exact Stage.resolve_eq_undefined_iff
  · rw [hlimit]
    exact Stage.resolve_eq_exceeded_iff
  · intro steps later again hlater hfirst hagain
    exact Store.goesBeyond_of_again hlater hfirst hagain _
  · intro args passed started hname hsingle hpasses
    have hexceeded := Interpreter.outcome_evalAt_of_goesBeyond hdepth hname hpasses hsingle
    refine ⟨fun steps last value h => ⟨fun hsteps => ?_, fun hsteps => ?_⟩, ?_, hexceeded⟩
    · exact Interpreter.outcome_evalAt_of_leadsTo hdepth hname hpasses hsingle hsteps h
    · exact hexceeded (h.goesBeyond (by omega))
    · intro steps last h hsteps
      exact Interpreter.outcome_evalAt_of_leadsNowhere hdepth hname hpasses hsingle hsteps h

end AnyEngine

/-- A store whose only scope binds a name to a second one and that to a text. -/
def aliasStore : Store :=
  ⟨#[⟨[], [("first", [⟨.sym "second", {}⟩]), ("second", [⟨.str "end", {}⟩])]⟩]⟩

/-- The names in its scope have at most one binding. -/
theorem bindings_aliasStore (name : String) :
    (aliasStore.scope 0).bindings name =
      if "first" = name then [⟨.sym "second", {}⟩]
      else if "second" = name then [⟨.str "end", {}⟩] else [] := by
  change (Keyed.find? [("first", [⟨.sym "second", {}⟩]), ("second", [⟨.str "end", {}⟩])]
    name).getD [] = (_ : List Binding)
  simp only [Keyed.find?]
  split_ifs <;> rfl

/-- No name is ambiguous in it. -/
theorem unambiguous_aliasStore (name : String) : aliasStore.Unambiguous 0 name := by
  intro steps passed near _ hnear
  have hbound := Store.bindings_ne_nil_of_nearest? hnear
  obtain rfl := List.mem_singleton.mp (List.mem_of_find?_eq_some hnear)
  rw [bindings_aliasStore] at hbound ⊢
  split_ifs at hbound ⊢
  · exact ⟨_, rfl⟩
  · exact ⟨_, rfl⟩
  · exact absurd rfl hbound

/-- On the last level but one the first name has the text as its value, and a call of it with an
argument returns the text; on the last level both fail at the limit. -/
theorem aliases_followed_within_depth_of_last_levels :
    let interpreter := Interpreter.standard []
    let world : World := ⟨aliasStore, #[]⟩
    let call := Value.list [.sym "first", .num 1]
    ((interpreter.stageAt 254).resolve "first" 0).outcome world = (.ok (.str "end"), world) ∧
    ((interpreter.evalAt 254 call 0).outcome world).1 = .ok (.str "end") ∧
    ((interpreter.stageAt 255).resolve "first" 0).outcome world =
      (.error (.of .depthExceeded), world) ∧
    ((interpreter.evalAt 255 call 0).outcome world).1 =
      .error (.eval ⟨.depthExceeded, [.context call]⟩) := by
  intro interpreter world call
  have hleads : aliasStore.LeadsTo 0 "first" 1 "second" (.str "end") :=
    ⟨rfl, ⟨{}, rfl⟩, fun _ h => nomatch h⟩
  have hpasses : ∀ depth, depth < maxEvalDepth →
      interpreter.Passes depth 0 "first" [.num 1] world [.num 1] world := by
    intro depth hdepth
    have hvalues : (Operand.runAll 0 (Operand.ofExprs (interpreter.evalAt depth)
        [.num 1])).outcome world = (.ok [.num 1], world) := by
      rw [Interpreter.evalAt_eq_evaluate _ hdepth]
      rfl
    exact .evaluated rfl rfl hvalues fun _ _ => rfl
  obtain ⟨⟨-, hworld, hvalue, -, -⟩, -, hcall⟩ :=
    aliases_followed_within_depth [] 254 (by decide) 0 "first" world
  obtain ⟨⟨-, hsame, -, -, hlimit⟩, -, hcut⟩ :=
    aliases_followed_within_depth [] 255 (by decide) 0 "first" world
  obtain ⟨now, -, hreturned⟩ := ((hcall [.num 1] [.num 1] world rfl (unambiguous_aliasStore "first")
    (hpasses 254 (by decide))).1 1 "second" (.str "end") hleads).1 (by decide)
  obtain ⟨failed, -, hfailed⟩ := ((hcut [.num 1] [.num 1] world rfl (unambiguous_aliasStore "first")
    (hpasses 255 (by decide))).1 1 "second" (.str "end") hleads).2 (by decide)
  refine ⟨Prod.ext ((hvalue (.str "end")).mpr ⟨1, "second", by decide, hleads⟩) hworld, ?_,
    Prod.ext (hlimit.mpr (hleads.goesBeyond (by decide))) hsame, ?_⟩
  · exact congrArg Prod.fst hreturned
  · exact congrArg Prod.fst hfailed

end ShapeLisp
