import ShapeLisp.Proofs.Eval.Unfolding
import ShapeLisp.Regex.Engine

/-!
# Application and direct calls

A name can be called with its arguments, or applied to the list of them. The two ways look the name
up at different moments and evaluate the arguments through different forms, and the arguments may
themselves define the name. Still they are the same: the choice among the bindings of the name is
made once the arguments are there, in the store as it is by then. They differ in the notes on
errors only, since the lists that are noted are not the same.
-/

namespace ShapeLisp

section AnyEngine

variable [Regex.Engine]

/-- An error without the notes about where it was raised. -/
def Error.withoutNotes : Error → Error
  | .eval failure => .of failure.cause
  | other => other

/-- A note that is added is left out again. -/
@[simp]
theorem Error.withoutNotes_annotate (error : Error) (note : Note) :
    (error.annotate note).withoutNotes = error.withoutNotes := by
  cases error with
  | eval failure => simp only [annotate, withoutNotes, Failure.cause_annotate]
  | _ => rfl

namespace Run

variable {α β : Type}

/-- What a run makes of a world, without the notes on an error. -/
def bareOutcome (run : Run α) (world : World) : Except Error α × World :=
  ((run.outcome world).1.mapError Error.withoutNotes, (run.outcome world).2)

/-- Adding a note changes nothing but notes. -/
@[simp]
theorem bareOutcome_annotate (run : Run α) (note : Note) (world : World) :
    (mapError (fun error => error.annotate note) run).bareOutcome world =
      run.bareOutcome world := by
  rw [bareOutcome, bareOutcome, outcome_mapError]
  generalize run.outcome world = outcome
  obtain ⟨result, after⟩ := outcome
  cases result with
  | ok a => rfl
  | error error =>
    exact congrArg (fun bare => (Except.error bare, after)) (error.withoutNotes_annotate note)

/-- Sequences are the same but for notes when their first parts are and they go on in the same
way. -/
theorem bareOutcome_bind_congr {first second : Run α} {world : World}
    (h : first.bareOutcome world = second.bareOutcome world) (next : α → Run β) :
    (first >>= next).bareOutcome world = (second >>= next).bareOutcome world := by
  rw [bareOutcome, bareOutcome, Prod.mk.injEq] at h
  rw [bareOutcome, bareOutcome, outcome_bind, outcome_bind]
  generalize first.outcome world = left at h ⊢
  generalize second.outcome world = right at h ⊢
  obtain ⟨result, after⟩ := left
  obtain ⟨other, otherAfter⟩ := right
  obtain ⟨hresult, rfl⟩ := h
  cases result with
  | ok a =>
    cases other with
    | ok b =>
      obtain rfl := Except.ok.inj hresult
      rfl
    | error error => cases hresult
  | error error =>
    cases other with
    | ok b => cases hresult
    | error other =>
      have herror : error.withoutNotes = other.withoutNotes := Except.error.inj hresult
      exact congrArg (fun bare => (Except.error bare, after)) herror

end Run

namespace Interpreter

variable {depth : Nat} {name : String} (scope : ScopeId) (world : World)

/-- A direct call of a name that is bound, and whose binding takes evaluated arguments, is the
choice of a binding after the evaluation of the arguments. -/
theorem bareOutcome_call (host : Host) (hdepth : depth < maxEvalDepth)
    (hname : Form.ofName? name = none) {binding : Binding}
    (hfound : world.store.lookup scope name = .ok binding)
    (heager : binding.options.skipArgs = false) (args : List Value) :
    ((Interpreter.standard host).evalAt depth (.list (.sym name :: args)) scope).bareOutcome world =
      (Operand.runAll scope (Operand.ofExprs ((Interpreter.standard host).evalAt depth) args) >>=
        fun values => ((Interpreter.standard host).stageAt depth).dispatch name values
          scope).bareOutcome world := by
  rw [evalAt_call hdepth hname]
  refine (Run.bareOutcome_annotate ..).trans ?_
  rw [Run.bareOutcome, Stage.call, Run.outcome_bind_ok (Run.outcome_lookup_of_eq hfound), heager]
  rfl

/-- The list of arguments is evaluated as arguments are. -/
theorem bareOutcome_list (host : Host) (hdepth : depth < maxEvalDepth) (args : List Value) :
    ((Interpreter.standard host).evalAt depth (.list (.sym "list" :: args)) scope).bareOutcome
        world =
      (Operand.runAll scope (Operand.ofExprs ((Interpreter.standard host).evalAt depth) args) >>=
        fun values => pure (.list values)).bareOutcome world := by
  have hlist : Form.ofName? "list" = some .list := rfl
  rw [evalAt_form hdepth hlist rfl]
  exact Run.bareOutcome_annotate ..

/-- An application of a name to a list of arguments is the choice of a binding after the evaluation
of the arguments. -/
theorem bareOutcome_apply (host : Host) (hdepth : depth < maxEvalDepth)
    (hname : Form.ofName? name = none) (args : List Value) :
    ((Interpreter.standard host).evalAt depth
        (.list [.sym "apply", .sym name, .list (.sym "list" :: args)]) scope).bareOutcome world =
      (Operand.runAll scope (Operand.ofExprs ((Interpreter.standard host).evalAt depth) args) >>=
        fun values => ((Interpreter.standard host).stageAt depth).dispatch name values
          scope).bareOutcome world := by
  have happly : Form.ofName? "apply" = some .apply := rfl
  have hsome : (Form.ofName? name).isSome = false := by rw [hname, Option.isSome_none]
  have hrun : Form.apply.run ((Interpreter.standard host).stageAt depth)
      (Operand.ofExprs ((Interpreter.standard host).evalAt depth)
        [.sym name, .list (.sym "list" :: args)]) scope =
      ((Interpreter.standard host).evalAt depth (.list (.sym "list" :: args)) scope >>=
        fun last => Form.spread last >>= fun items =>
          ((Interpreter.standard host).stageAt depth).dispatch name items scope) := by
    simp only [Form.run, Operand.ofExprs, Form.runApply, List.dropLast_singleton,
      List.getLast_singleton, Operand.runAll, pure_bind, List.nil_append, Operand.run_ofExpr,
      Operand.expr_ofExpr, hsome, Bool.false_eq_true, if_false]
  rw [evalAt_form hdepth happly rfl]
  refine (Run.bareOutcome_annotate ..).trans ?_
  rw [hrun, Run.bareOutcome_bind_congr (bareOutcome_list scope world host hdepth args), bind_assoc]
  simp only [pure_bind, Form.spread]

end Interpreter

/-- Application agrees with a direct call. Let a name be no special form, and let its latest binding
in the nearest scope that binds it take evaluated arguments. Then calling the name with arguments
and applying it to the list of the arguments leave the same world, with the same events and the same
scopes, and return the same value or fail with the same error but for the notes on it: with the same
undefined name, the same malformed function, or a failed evaluation of the same cause. -/
theorem apply_agrees_with_call (host : Host) (depth : Nat) (name : String) (args : List Value)
    (scope : ScopeId) (world : World) (binding : Binding)
    (hname : Form.ofName? name = none)
    (hfound : world.store.lookup scope name = .ok binding)
    (heager : binding.options.skipArgs = false) :
    (((Interpreter.standard host).evalAt depth (.list (.sym name :: args)) scope).outcome world).2 =
      (((Interpreter.standard host).evalAt depth
        (.list [.sym "apply", .sym name, .list (.sym "list" :: args)]) scope).outcome world).2 ∧
    (((Interpreter.standard host).evalAt depth (.list (.sym name :: args)) scope).outcome
        world).1.mapError Error.withoutNotes =
      (((Interpreter.standard host).evalAt depth
        (.list [.sym "apply", .sym name, .list (.sym "list" :: args)]) scope).outcome
          world).1.mapError Error.withoutNotes := by
  rcases Nat.lt_or_ge depth maxEvalDepth with hdepth | hdepth
  · have hcall := Interpreter.bareOutcome_call scope world host hdepth hname hfound heager args
    have happly := Interpreter.bareOutcome_apply scope world host hdepth hname args
    have hsame := Prod.mk.inj (hcall.trans happly.symm)
    exact ⟨hsame.2, hsame.1⟩
  · rw [Interpreter.outcome_evalAt_of_le _ hdepth, Interpreter.outcome_evalAt_of_le _ hdepth]
    exact ⟨rfl, rfl⟩

end AnyEngine

/-- A store whose only scope binds a name to a closure for one text. -/
def singleClosure : Store :=
  ⟨#[⟨[], [("f", [⟨.closure [.str "b"] none (.str "old") 0, {}⟩])]⟩]⟩

/-- An argument that adds a closure to the name it is an argument of. -/
def overloadingArgument : Value :=
  .list [.sym "begin", .list [.sym "def", .list [.sym "f", .sym "x"], .str "new"], .str "a"]

/-- The closure that the argument adds is called in both ways. -/
theorem apply_agrees_with_call_of_overload :
    (((Interpreter.standard []).evalAt 0 (.list [.sym "f", overloadingArgument]) 0).outcome
        ⟨singleClosure, #[]⟩).1 = .ok (.str "new") ∧
      (((Interpreter.standard []).evalAt 0 (.list [.sym "apply", .sym "f",
        .list [.sym "list", overloadingArgument]]) 0).outcome
        ⟨singleClosure, #[]⟩).1.mapError Error.withoutNotes = .ok (.str "new") := by
  have hagree := apply_agrees_with_call [] 0 "f" [overloadingArgument] 0 ⟨singleClosure, #[]⟩
    ⟨.closure [.str "b"] none (.str "old") 0, {}⟩ rfl rfl rfl
  exact ⟨rfl, hagree.2.symm⟩

end ShapeLisp
