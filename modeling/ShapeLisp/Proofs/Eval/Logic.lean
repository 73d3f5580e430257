import ShapeLisp.Proofs.Eval.Unfolding

/-!
# A logic of evaluations

Many facts about evaluation are proved in the same way: they hold of the primitives, they pass from
the parts of a run to the run, and so they hold of every evaluation. A `RunLogic` is such a way of
reasoning. It speaks of families of runs, one run for each index, that pass the same values
around; with one index it is a program logic, with two it compares two evaluators, and with a
number for index it speaks of approximations.

What is known of a value may depend on the scopes that exist, since closures refer to scopes. So
every judgement is made from a number of scopes on, and what is known stays true when scopes are
added.

The main statement is `unfold_holds`: a logic holds of one step of an evaluation when it holds of
the evaluation of the parts and of the lower levels.
-/

namespace ShapeLisp

variable [Regex.Engine]

/-- Values without names and functions in them. -/
inductive Value.IsData : Value → Prop where
  /-- The null value. -/
  | nil : IsData .nil
  /-- A truth value. -/
  | bool (value : Bool) : IsData (.bool value)
  /-- A number. -/
  | num (x : Float) : IsData (.num x)
  /-- A string. -/
  | str (text : String) : IsData (.str text)
  /-- A range. -/
  | range (start stop : Float) (step : Option Float) : IsData (.range start stop step)
  /-- A JSON literal. -/
  | json (document : Json) : IsData (.json document)
  /-- A pointer. -/
  | pointer (path : String) : IsData (.pointer path)
  /-- A list of data. -/
  | list {items : List Value} : (∀ item ∈ items, IsData item) → IsData (.list items)

/-- A way of reasoning about families of evaluations. -/
structure RunLogic (ι : Type) where
  /-- The interpreters of the evaluations. -/
  interpreter : ι → Interpreter
  /-- What is known of the values passed around, in stores of at least so many scopes. -/
  Good : Nat → Value → Prop
  /-- What holds of runs in a scope, in stores of at least so many scopes; the condition is what
  is known of the value returned. -/
  Holds : Nat → ScopeId → {α : Type} → (Nat → α → Prop) → (ι → Run α) → Prop
  /-- More scopes do no harm. -/
  good_mono : ∀ {m n : Nat} {value : Value}, m ≤ n → Good m value → Good n value
  /-- A list is good when its items are. -/
  good_list : ∀ {n : Nat} {items : List Value},
    Good n (.list items) ↔ ∀ item ∈ items, Good n item
  /-- A quote may be dropped. -/
  good_quoted : ∀ {n : Nat} {inner : Value}, Good n (.quoted inner) → Good n inner
  /-- Data is good. -/
  good_data : ∀ {n : Nat} {value : Value}, value.IsData → Good n value
  /-- Returning a value. -/
  returns : ∀ {n : Nat} {scope : ScopeId} {α : Type} {Post : Nat → α → Prop} {a : α},
    Post n a → Holds n scope Post fun _ => pure a
  /-- One run after another. -/
  bind : ∀ {n : Nat} {scope : ScopeId} {α β : Type} {Mid : Nat → α → Prop}
    {Post : Nat → β → Prop} {run : ι → Run α} {next : ι → α → Run β},
    Holds n scope Mid run →
    (∀ m, n ≤ m → ∀ a, Mid m a → Holds m scope Post fun i => next i a) →
    Holds n scope Post fun i => run i >>= next i
  /-- Failing for a cause. -/
  fail : ∀ {n : Nat} {scope : ScopeId} {α : Type} {Post : Nat → α → Prop} (cause : Cause),
    Holds n scope Post fun _ => Run.fail cause
  /-- Failing because a function is malformed. -/
  malformed : ∀ {n : Nat} {scope : ScopeId} {α : Type} {Post : Nat → α → Prop} (cause : Cause),
    Holds n scope Post fun _ => throw (.lambda cause)
  /-- Noting an event. -/
  emit : ∀ {n : Nat} {scope : ScopeId} (event : Event),
    Holds n scope (fun _ _ => True) fun _ => Run.emit event
  /-- Looking a name up. -/
  lookup : ∀ {n : Nat} {scope : ScopeId} {name : String}, Good n (.sym name) →
    Holds n scope (fun m binding => Good m binding.value) fun _ => Run.lookup scope name
  /-- Choosing a binding by arguments. -/
  dispatch : ∀ {n : Nat} {scope : ScopeId} {name : String} {args : List Value},
    Good n (.sym name) → (∀ arg ∈ args, Good n arg) →
    Holds n scope (fun m binding => Good m binding.value) fun _ => Run.dispatch scope name args
  /-- Defining a name. -/
  define : ∀ {n : Nat} {scope : ScopeId} {name : String} {value : Value},
    Good n (.sym name) → Good n value →
    Holds n scope (fun _ _ => True) fun _ => Run.define scope name value
  /-- Making a function. -/
  closure : ∀ {n : Nat} {scope : ScopeId} {formals body : List Value} {rest : Option String},
    (∀ formal ∈ formals, Good n formal) → (∀ form ∈ body, Good n form) →
    Shape.restName formals = .ok rest →
    Holds n scope Good fun _ => pure (.closure formals rest (Form.bodyOf body) scope)
  /-- Calling a builtin. -/
  builtin : ∀ {n : Nat} {scope : ScopeId} {id : String} {args : List Value}
    {lower : ι → Level}, Good n (.builtin id) → (∀ arg ∈ args, Good n arg) →
    Holds n scope Good fun i =>
      Stage.applyCallable ⟨interpreter i, lower i⟩ (.builtin id) args scope
  /-- Calling a closure, whose body runs in a scope of its own. -/
  call : ∀ {n : Nat} {scope outer : ScopeId} {params args : List Value} {rest : Option String}
    {body : Value} {run : ι → ScopeId → Run Value},
    Good n (.closure params rest body outer) → (∀ arg ∈ args, Good n arg) →
    (∀ m, n ≤ m → ∀ inner, Good m body → Holds m inner Good fun i => run i inner) →
    Holds n scope Good fun i => do
      let inner ← Run.newScope outer
      bindArguments inner params rest args
      Run.mapError (fun error => (interpreter i).annotate error (.inFunction body)) (run i inner)
  /-- Running in a new scope inside the scope. -/
  child : ∀ {n : Nat} {scope : ScopeId} {α : Type} {Post : Nat → α → Prop}
    {run : ι → ScopeId → Run α},
    (∀ m, n ≤ m → ∀ inner, Holds m inner Post fun i => run i inner) →
    Holds n scope Post fun i => do
      let inner ← Run.newScope scope
      run i inner
  /-- Noting the expression that failed. -/
  context : ∀ {n : Nat} {scope : ScopeId} {Post : Nat → Value → Prop} {run : ι → Run Value}
    (expr : Value), Holds n scope Post run →
    Holds n scope Post fun i =>
      Run.mapError (fun error => (interpreter i).annotate error (.context expr)) (run i)

namespace RunLogic

/-- In a logic that asks nothing of values, a list is good as its items are. -/
theorem anything_list (items : List Value) : True ↔ ∀ item ∈ items, True :=
  ⟨fun _ _ _ => trivial, fun _ => trivial⟩

variable {ι : Type} (L : RunLogic ι)

/-- All values of a list are good. -/
abbrev GoodAll (n : Nat) (values : List Value) : Prop :=
  ∀ value ∈ values, L.Good n value

/-- The logic holds of the evaluation of an expression and of its parts. -/
structure Ready (parts : ι → Value → ScopeId → Run Value) (n : Nat) (expr : Value) : Prop where
  /-- The expression is good. -/
  good : L.Good n expr
  /-- The expression and its parts are evaluated soundly. -/
  runs : ∀ part, part = expr ∨ part.Inside expr → ∀ m, n ≤ m → L.Good m part →
    ∀ scope, L.Holds m scope L.Good fun i => parts i part scope

/-- The logic holds of what can be done on a level. -/
structure LevelHolds (level : ι → Level) : Prop where
  /-- Evaluating the body of a function. -/
  body : ∀ {n : Nat} {expr : Value} {scope : ScopeId}, L.Good n expr →
    L.Holds n scope L.Good fun i => (level i).body expr scope
  /-- Calling another name in place of a called name. -/
  follow : ∀ {n : Nat} {name target : String} {args : List Value} {scope : ScopeId},
    L.Good n (.sym target) → L.GoodAll n args →
    L.Holds n scope L.Good fun i => (level i).follow name target args scope
  /-- The value of a name that stands for a name. -/
  resolve : ∀ {n : Nat} {name : String} {scope : ScopeId}, L.Good n (.sym name) →
    L.Holds n scope L.Good fun i => (level i).resolve name scope

section Basics

variable {L}
variable {parts : ι → Value → ScopeId → Run Value} {n : Nat} {scope : ScopeId}

/-- More scopes do no harm to lists of values. -/
theorem GoodAll.mono {m : Nat} {values : List Value} (h : L.GoodAll n values) (hle : n ≤ m) :
    L.GoodAll m values :=
  fun value hmem => L.good_mono hle (h value hmem)

/-- More scopes do no harm to an expression. -/
theorem Ready.mono {m : Nat} {expr : Value} (h : L.Ready parts n expr) (hle : n ≤ m) :
    L.Ready parts m expr where
  good := L.good_mono hle h.good
  runs part hpart k hk := h.runs part hpart k (Nat.le_trans hle hk)

/-- The items of a list are as ready as the list. -/
theorem Ready.item {items : List Value} {item : Value} (h : L.Ready parts n (.list items))
    (hmem : item ∈ items) : L.Ready parts n item where
  good := L.good_list.mp h.good item hmem
  runs part hpart := by
    apply h.runs
    right
    rcases hpart with rfl | hinside
    · exact .item hmem
    · exact hinside.trans (.item hmem)

/-- A ready expression is evaluated soundly. -/
theorem Ready.run {expr : Value} (h : L.Ready parts n expr) :
    L.Holds n scope L.Good fun i => (Operand.ofExpr (parts i) expr).run scope := by
  simp only [Operand.run_ofExpr]
  exact h.runs expr (.inl rfl) n (Nat.le_refl n) h.good scope

variable (L) in
/-- The logic holds of a run followed by the return of a value made of its result. -/
theorem map {α β : Type} {Mid : Nat → α → Prop} {Post : Nat → β → Prop} {run : ι → Run α}
    {f : α → β} (h : L.Holds n scope Mid run) (hf : ∀ m a, Mid m a → Post m (f a)) :
    L.Holds n scope Post fun i => run i >>= fun a => pure (f a) :=
  L.bind h fun m _ a ha => L.returns (hf m a ha)

variable (L) in
/-- The logic holds of noting events in order. -/
theorem emitAll (events : List Event) :
    L.Holds n scope (fun _ _ => True) fun _ => Run.emitAll events := by
  induction events generalizing n with
  | nil => exact L.returns trivial
  | cons event rest ih => exact L.bind (L.emit event) fun m _ _ _ => ih

variable (L) in
/-- The logic holds of a failure before another run. -/
theorem failBind {α β : Type} {Post : Nat → β → Prop} (cause : Cause) (next : ι → α → Run β) :
    L.Holds n scope Post fun i => Run.fail cause >>= next i := by
  have hfail : L.Holds n scope (fun _ (_ : α) => False) fun _ => Run.fail cause := L.fail cause
  exact L.bind hfail fun _ _ _ himpossible => himpossible.elim

variable (L) in
/-- The logic holds of the refusal of a number of arguments. -/
theorem wrongArity {α : Type} {Post : Nat → α → Prop} (arity : Arity) (count : Nat) :
    L.Holds n scope Post fun _ => throw (arity.error count) :=
  L.fail _

variable (L) in
/-- The logic holds of the check of a number of arguments. -/
theorem checkArity (arity : Arity) (count : Nat) :
    L.Holds n scope (fun _ _ => True) fun _ => Run.ofResult (arity.check count) := by
  unfold Arity.check
  split
  · exact L.returns trivial
  · exact L.wrongArity arity count

end Basics

end RunLogic

end ShapeLisp
