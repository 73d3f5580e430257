import ShapeLisp.Proofs.Eval.LogicRules

/-!
# Comparing evaluations

Evaluators that differ in how many levels they have left, or in what they do to errors, start in
the same world and pass the same values around. To compare them it is enough to say what is
compared, and that this passes from the parts of a run to the run and through the adding of notes.
A `RunComparison` says so, and its logic carries the comparison to every evaluation.
-/

namespace ShapeLisp

variable [Regex.Engine]

/-- A way of comparing runs that start in the same world. -/
structure RunComparison (ι : Type) where
  /-- The interpreters of the runs. -/
  interpreter : ι → Interpreter
  /-- The functions of the host, which the interpreters share. -/
  host : Host
  /-- The interpreters have the functions of the host. -/
  host_eq : ∀ i, (interpreter i).host = host
  /-- The runs of a family compare as they should. -/
  Agree : {α : Type} → (ι → Run α) → Prop
  /-- A run agrees with itself. -/
  same : ∀ {α : Type} (run : Run α), Agree fun _ => run
  /-- One run after another, where the second need only agree for what the first can return. -/
  bind : ∀ {α β : Type} {run : ι → Run α} {next : ι → α → Run β} {Mid : α → Prop},
    Agree run → (∀ i, (run i).Returns Mid) → (∀ a, Mid a → Agree fun i => next i a) →
    Agree fun i => run i >>= next i
  /-- Noting where a run failed. -/
  annotated : ∀ {α : Type} {run : ι → Run α} (note : Note), Agree run →
    Agree fun i => Run.mapError (fun error => (interpreter i).annotate error note) (run i)

namespace RunComparison

variable {ι : Type} (C : RunComparison ι)

/-- Runs that agree after a run that they share. -/
theorem after {α β : Type} (first : Run α) {next : ι → α → Run β}
    (hnext : ∀ a, C.Agree fun i => next i a) : C.Agree fun i => first >>= next i :=
  C.bind (C.same first) (fun _ => first.returns_true) fun a _ => hnext a

/-- Calls of a builtin agree: they depend on the host only. -/
theorem builtin (lower : ι → Level) (id : String) (args : List Value) (scope : ScopeId) :
    C.Agree fun i =>
      Stage.applyCallable ⟨C.interpreter i, lower i⟩ (.builtin id) args scope := by
  simp only [Stage.applyCallable, C.host_eq]
  exact C.same _

/-- The logic of a comparison. Nothing is asked of values. -/
def logic : RunLogic ι where
  interpreter := C.interpreter
  Good _ _ := True
  Holds n _ _ Post run := C.Agree run ∧ ∀ i, (run i).Returns (Post n)
  good_mono _ _ := trivial
  good_list := RunLogic.anything_list _
  good_quoted _ := trivial
  good_data _ := trivial
  returns h := ⟨C.same _, fun _ => Run.returns_pure h⟩
  bind hrun hnext :=
    ⟨C.bind hrun.1 hrun.2 fun a ha => (hnext _ (Nat.le_refl _) a ha).1,
      fun i => (hrun.2 i).bind fun a ha => (hnext _ (Nat.le_refl _) a ha).2 i⟩
  fail _ := ⟨C.same _, fun _ => Run.returns_throw _ _⟩
  malformed _ := ⟨C.same _, fun _ => Run.returns_throw _ _⟩
  emit _ := ⟨C.same _, fun _ => Run.returns_true _⟩
  lookup _ := ⟨C.same _, fun _ => Run.returns_true _⟩
  dispatch _ _ := ⟨C.same _, fun _ => Run.returns_true _⟩
  define _ _ := ⟨C.same _, fun _ => Run.returns_true _⟩
  closure _ _ _ := ⟨C.same _, fun _ => Run.returns_true _⟩
  builtin _ _ := ⟨C.builtin .., fun _ => Run.returns_true _⟩
  call _ _ hrun := ⟨C.after _ fun inner => C.after _ fun _ =>
    C.annotated _ (hrun _ (Nat.le_refl _) inner trivial).1, fun _ => Run.returns_true _⟩
  child hrun := ⟨C.after _ fun inner => (hrun _ (Nat.le_refl _) inner).1,
    fun i => Run.Returns.bind_of_forall fun inner => (hrun _ (Nat.le_refl _) inner).2 i⟩
  context _ hrun := ⟨C.annotated _ hrun.1, fun i => (hrun.2 i).mapError _⟩

/-- Evaluations at the same depth agree. -/
theorem evalAt_agree (depth : Nat) (expr : Value) (scope : ScopeId) :
    C.Agree fun i => (C.interpreter i).evalAt depth expr scope := by
  have hexpr : C.logic.Holds 0 scope C.logic.Good fun i =>
      (C.interpreter i).evalAt depth expr scope := RunLogic.evalAt_holds depth trivial
  exact hexpr.1

end RunComparison

end ShapeLisp
