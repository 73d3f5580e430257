import ShapeLisp.Eval.Call
import ShapeLisp.Proofs.Shape.Bindings

/-!
# What a call binds

However the arguments of a call are bound, the values that are bound are made of arguments and
captured texts, put into lists, and of nil where an argument is missing. So what holds of nil, of
texts and of the arguments, and of a list as of its items, holds of every value that a call binds.
-/

namespace ShapeLisp

variable [Regex.Engine]
variable {P : Value → Prop}

/-- Spread arguments are arguments or items of arguments. -/
theorem forall_flatten (hlist : ∀ {items}, P (.list items) ↔ ∀ item ∈ items, P item)
    {args : List Value} (h : ∀ arg ∈ args, P arg) : ∀ arg ∈ flatten args, P arg := by
  intro value hmem
  obtain ⟨arg, harg, hvalue⟩ := List.mem_flatMap.mp hmem
  split at hvalue
  · exact hlist.mp (h _ harg) value hvalue
  · rw [List.mem_singleton.mp hvalue]
    exact h arg harg

/-- What a matching call binds. -/
theorem forall_matchedBindings (htext : ∀ text, P (.str text))
    (hlist : ∀ {items}, P (.list items) ↔ ∀ item ∈ items, P item) {params args : List Value}
    {bindings : Shape.Bindings} (h : ∀ arg ∈ args, P arg)
    (hmatch : matchedBindings? params args = some bindings) : ∀ entry ∈ bindings, P entry.2 := by
  rcases Option.or_eq_some_iff.mp hmatch with hflat | ⟨-, hpassed⟩
  · exact Shape.forall_matchParams htext hlist (forall_flatten hlist h) hflat
  · exact Shape.forall_matchParams htext hlist h hpassed

/-- What symbols bind by position. -/
theorem forall_positionalFixed (hnil : P .nil) (params : List Value) {args : List Value}
    (h : ∀ arg ∈ args, P arg) : ∀ entry ∈ positionalFixed params args, P entry.2 := by
  fun_induction positionalFixed params args with
  | case1 => exact List.forall_mem_nil _
  | case2 bound params args ih =>
    refine List.forall_mem_cons.mpr ⟨?_, ih fun arg hmem => h arg (List.mem_of_mem_tail hmem)⟩
    cases args with
    | nil => exact hnil
    | cons arg rest => exact h arg List.mem_cons_self
  | case3 param params args _ ih => exact ih fun arg hmem => h arg (List.mem_of_mem_tail hmem)

/-- What a call binds whose arguments do not match. -/
theorem forall_positionalBindings (hnil : P .nil)
    (hlist : ∀ {items}, P (.list items) ↔ ∀ item ∈ items, P item) (params : List Value)
    (rest : Option String) {args : List Value} (h : ∀ arg ∈ args, P arg) :
    ∀ entry ∈ positionalBindings params rest args, P entry.2 := by
  intro entry hmem
  rcases List.mem_append.mp hmem with hfixed | hrest
  · exact forall_positionalFixed hnil _ h entry hfixed
  · split at hrest
    · rw [List.mem_singleton.mp hrest]
      exact hlist.mpr fun arg harg => h arg (List.mem_of_mem_drop harg)
    · cases hrest

end ShapeLisp
