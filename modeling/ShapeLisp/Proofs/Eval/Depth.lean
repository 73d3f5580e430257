import ShapeLisp.Proofs.Eval.Comparison
import ShapeLisp.Regex.Engine

/-!
# The depth limit

How many levels an evaluation has left matters only when they run out: an evaluation that returns
a value returns the same value, and leaves the same world, when it has more levels. So the limit
turns results into errors and never into other results.

The reason is that no construct goes on after an error, so an evaluation that returns a value has
never met the limit on its way.
-/

namespace ShapeLisp

section AnyEngine

variable [Regex.Engine]

/-- Two evaluations that differ in the levels they have left. -/
inductive Room where
  /-- The evaluation with fewer levels. -/
  | less
  /-- The evaluation with more levels. -/
  | more

/-- The levels that an evaluation has left. -/
def Room.levels (fewer further : Nat) : Room → Nat
  | .less => fewer
  | .more => further

/-- Whenever the run with fewer levels returns a value, the one with more levels returns it too and
leaves the same world. -/
def Run.Persists {α : Type} (run : Room → Run α) : Prop :=
  ∀ world a after, (run .less).outcome world = (.ok a, after) →
    (run .more).outcome world = (.ok a, after)

namespace Run

variable {α β : Type}

/-- A sequence that returns a value has a first part that returns one. -/
theorem outcome_bind_eq_ok {run : Run α} {next : α → Run β} {world after : World} {b : β}
    (h : (run >>= next).outcome world = (.ok b, after)) :
    ∃ a middle, run.outcome world = (.ok a, middle) ∧
      (next a).outcome middle = (.ok b, after) := by
  rw [outcome_bind] at h
  split at h
  · next a middle hrun => exact ⟨a, middle, hrun, h⟩
  · cases h

/-- A run whose errors are changed returns what it returned before. -/
theorem outcome_mapError_eq_ok {change : Error → Error} {run : Run α} {world after : World} {a : α}
    (h : (mapError change run).outcome world = (.ok a, after)) :
    run.outcome world = (.ok a, after) := by
  rw [outcome_mapError] at h
  split at h
  · next value middle hrun => rw [hrun, h]
  · cases h

/-- Where the run with fewer levels fails at once there is nothing to keep. -/
theorem persists_of_fail {run : Room → Run α} {cause : Cause} (h : run .less = fail cause) :
    Persists run := by
  intro world a after hless
  rw [h] at hless
  cases hless

/-- One run after another. -/
theorem Persists.bind {run : Room → Run α} {next : Room → α → Run β} {Mid : α → Prop}
    (hrun : Persists run) (hmid : ∀ room, (run room).Returns Mid)
    (hnext : ∀ a, Mid a → Persists fun room => next room a) :
    Persists fun room => run room >>= next room := by
  intro world b after hless
  obtain ⟨a, middle, hfirst, hsecond⟩ := outcome_bind_eq_ok hless
  have ha : Mid a := hmid .less world a (by rw [hfirst])
  rw [outcome_bind_ok (hrun world a middle hfirst)]
  exact hnext a ha middle b after hsecond

/-- Errors that are changed stay errors. -/
theorem Persists.mapError {run : Room → Run α} (hrun : Persists run) (change : Error → Error) :
    Persists fun room => Run.mapError change (run room) := by
  intro world a after hless
  rw [outcome_mapError, hrun world a after (outcome_mapError_eq_ok hless)]

end Run

/-- The comparison of evaluations by one interpreter with fewer and with more levels left. -/
def roomComparison (interpreter : Interpreter) : RunComparison Room where
  interpreter _ := interpreter
  host := interpreter.host
  host_eq _ := rfl
  Agree := Run.Persists
  same _ _ _ _ := id
  bind := Run.Persists.bind
  annotated _ hrun := hrun.mapError _

/-- Runs compare well when the one with fewer levels fails at once. -/
theorem holds_of_fail {interpreter : Interpreter} {n : Nat} {scope : ScopeId}
    {run : Room → Run Value} {cause : Cause} (h : run .less = Run.fail cause) :
    (roomComparison interpreter).logic.Holds n scope (roomComparison interpreter).logic.Good run :=
  ⟨Run.persists_of_fail h, fun _ => Run.returns_true _⟩

/-- What is done on a level is done on every level with more left. -/
theorem levelHolds_room (interpreter : Interpreter) {fewer further : Nat} (h : fewer ≤ further) :
    (roomComparison interpreter).logic.LevelHolds fun room =>
      interpreter.level (room.levels fewer further) := by
  induction fewer generalizing further with
  | zero =>
    constructor
    · intro n expr scope _
      exact holds_of_fail rfl
    · intro n name target args scope _ _
      exact holds_of_fail rfl
    · intro n name scope _
      exact holds_of_fail rfl
  | succ fewer ih =>
    obtain ⟨further, rfl⟩ : ∃ left, further = left + 1 := ⟨further - 1, by omega⟩
    have hlevel : ∀ room : Room, room.levels (fewer + 1) (further + 1) =
        room.levels fewer further + 1 := by
      intro room
      cases room <;> rfl
    simp only [hlevel, Interpreter.level_succ]
    exact RunLogic.nextLevel_holds (ih (Nat.le_of_succ_le_succ h))

/-- The depth limit can only turn results into errors. An evaluation that returns a value at some
depth returns the same value at every smaller depth, from the same world, and leaves the same world:
the same events and the same scopes with the same bindings. -/
theorem depth_limit_only_fails (interpreter : Interpreter) (shallow deep : Nat)
    (hdepth : shallow ≤ deep) (expr : Value) (scope : ScopeId) (world after : World)
    (value : Value) (h : (interpreter.evalAt deep expr scope).outcome world = (.ok value, after)) :
    (interpreter.evalAt shallow expr scope).outcome world = (.ok value, after) := by
  have hleft : maxEvalDepth - deep ≤ maxEvalDepth - shallow := Nat.sub_le_sub_left hdepth _
  have hbody : (roomComparison interpreter).logic.Holds 0 scope
      (roomComparison interpreter).logic.Good fun room =>
        (interpreter.level (room.levels (maxEvalDepth - deep) (maxEvalDepth - shallow))).body
          expr scope := (levelHolds_room interpreter hleft).body trivial
  exact hbody.1 world value after h

end AnyEngine

/-- A store whose only scope binds a name to a closure that returns its argument. -/
def echoStore : Store :=
  ⟨#[⟨[], [("echo", [⟨.closure [.sym "x"] none (.sym "x") 0, {}⟩])]⟩]⟩

/-- A call of the closure needs two levels. Where just two are left it returns its argument, and so
it does at the outermost depth, with the same scope made for the call. -/
theorem depth_limit_only_fails_of_echo :
    ∃ after, ((Interpreter.standard []).evalAt 254 (.list [.sym "echo", .str "a"]) 0).outcome
        ⟨echoStore, #[]⟩ = (.ok (.str "a"), after) ∧
      ((Interpreter.standard []).evalAt 0 (.list [.sym "echo", .str "a"]) 0).outcome
        ⟨echoStore, #[]⟩ = (.ok (.str "a"), after) :=
  ⟨_, rfl, depth_limit_only_fails (.standard []) 0 254 (by decide) _ 0 ⟨echoStore, #[]⟩ _ _ rfl⟩

end ShapeLisp
