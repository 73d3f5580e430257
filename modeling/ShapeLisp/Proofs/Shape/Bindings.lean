import ShapeLisp.Proofs.Keyed
import ShapeLisp.Shape.Match

/-!
# The bindings of a match

A match binds every name at most once: however symbols, named groups and the rest parameter are
combined, the bindings are in the order of their names and no name occurs twice.

The values that are bound are made of arguments and captured texts, put into lists. So what holds of
texts and of the arguments, and of a list as of its items, holds of every value that a match binds.
-/

namespace ShapeLisp.Shape

variable [Regex.Engine]
variable {known found : Bindings}

/-- Adding a value under a name keeps the order. -/
theorem sorted_accumulate (h : known.Sorted) (name : String) (value : Value) :
    (accumulate known name value).Sorted := by
  unfold accumulate
  split <;> exact h.insert ..

/-- What an accepted argument adds keeps the order. -/
theorem sorted_record (h : known.Sorted) (bind : Bool) (formal actual : Value) :
    (record bind formal actual known).Sorted := by
  unfold record
  split
  · split
    · exact h.insert ..
    · exact h
  · generalize captured formal actual = texts
    induction texts generalizing known with
    | nil => exact h
    | cons text rest ih => exact ih (sorted_accumulate h text.1 (.str text.2))

/-- Trying shapes one by one keeps the order. -/
theorem sorted_matchEach {formals actuals : List Value} (h : known.Sorted)
    (hfound : matchEach formals actuals known = some found) : found.Sorted := by
  induction formals generalizing actuals known with
  | nil =>
    rw [matchEach] at hfound
    exact Option.some.inj hfound ▸ h
  | cons formal formals ih =>
    cases actuals with
    | nil => cases hfound
    | cons actual actuals =>
      obtain ⟨next, hone, hrest⟩ := Option.bind_eq_some_iff.mp hfound
      refine ih ?_ hrest
      unfold matchOne at hone
      split at hone
      · exact Option.some.inj hone ▸ sorted_record h true formal actual
      · cases hone

/-- Adding the rest keeps the order. -/
theorem sorted_bindRest (h : known.Sorted) (target : Value) (actuals : List Value) :
    (bindRest target actuals known).Sorted := by
  unfold bindRest
  dsimp only
  split
  · exact h.insert ..
  · exact h.insertAll ..

/-- The bindings of a match are in the order of their names. -/
theorem sorted_matchParams {formals actuals : List Value}
    (hfound : matchParams formals actuals = some found) : found.Sorted := by
  have hempty : Keyed.Sorted ([] : Bindings) := List.Pairwise.nil
  unfold matchParams at hfound
  split at hfound
  · split at hfound
    · exact sorted_matchEach hempty hfound
    · cases hfound
  · split at hfound
    · cases hfound
    · obtain ⟨first, hfirst, hrest⟩ := Option.bind_eq_some_iff.mp hfound
      obtain ⟨target, -, htarget⟩ := Option.bind_eq_some_iff.mp hrest
      cases htarget
      exact sorted_bindRest (sorted_matchEach hempty hfirst) target _

/-! ### The values bound -/

section Values

variable {P : Value → Prop} (htext : ∀ text, P (.str text))
  (hlist : ∀ {items}, P (.list items) ↔ ∀ item ∈ items, P item)

include hlist in
/-- Adding a value under a name. -/
theorem forall_accumulate (hknown : ∀ entry ∈ known, P entry.2) (name : String) {value : Value}
    (hvalue : P value) : ∀ entry ∈ accumulate known name value, P entry.2 := by
  intro entry hmem
  unfold accumulate at hmem
  split at hmem
  · next items hfound =>
    rcases Keyed.eq_or_mem_of_mem_insert hmem with rfl | hbefore
    · have hitems := hlist.mp (hknown _ (Keyed.mem_of_find? hfound))
      refine hlist.mpr fun item hitem => ?_
      rcases List.mem_append.mp hitem with hold | hnew
      · exact hitems item hold
      · rwa [List.mem_singleton.mp hnew]
    · exact hknown entry hbefore
  · next first _ hfound =>
    rcases Keyed.eq_or_mem_of_mem_insert hmem with rfl | hbefore
    · refine hlist.mpr fun item hitem => ?_
      simp only [List.mem_cons, List.not_mem_nil, or_false] at hitem
      rcases hitem with rfl | rfl
      · exact hknown _ (Keyed.mem_of_find? hfound)
      · exact hvalue
    · exact hknown entry hbefore
  · rcases Keyed.eq_or_mem_of_mem_insert hmem with rfl | hbefore
    · exact hvalue
    · exact hknown entry hbefore

include htext hlist in
/-- What an accepted argument adds. -/
theorem forall_record (hknown : ∀ entry ∈ known, P entry.2) (bind : Bool) (formal : Value)
    {actual : Value} (hactual : P actual) :
    ∀ entry ∈ record bind formal actual known, P entry.2 := by
  unfold record
  split
  · split
    · intro entry hmem
      rcases Keyed.eq_or_mem_of_mem_insert hmem with rfl | hbefore
      · exact hactual
      · exact hknown entry hbefore
    · exact hknown
  · generalize captured formal actual = texts
    induction texts generalizing known with
    | nil => exact hknown
    | cons text rest ih => exact ih (forall_accumulate hlist hknown text.1 (htext text.2))

include htext hlist in
/-- What trying shapes one by one binds. -/
theorem forall_matchEach {formals actuals : List Value} (hknown : ∀ entry ∈ known, P entry.2)
    (hactuals : ∀ actual ∈ actuals, P actual)
    (hfound : matchEach formals actuals known = some found) : ∀ entry ∈ found, P entry.2 := by
  induction formals generalizing actuals known with
  | nil =>
    rw [matchEach] at hfound
    exact Option.some.inj hfound ▸ hknown
  | cons formal formals ih =>
    cases actuals with
    | nil => cases hfound
    | cons actual actuals =>
      obtain ⟨next, hone, hrest⟩ := Option.bind_eq_some_iff.mp hfound
      refine ih ?_ (fun other hmem => hactuals other (List.mem_cons_of_mem _ hmem)) hrest
      unfold matchOne at hone
      split at hone
      · have hactual := hactuals actual List.mem_cons_self
        exact Option.some.inj hone ▸ forall_record htext hlist hknown true formal hactual
      · cases hone

include htext hlist in
/-- What the rest captures by name. -/
theorem forall_restCaptures (target : Value) {actuals : List Value}
    (hactuals : ∀ actual ∈ actuals, P actual) :
    ∀ entry ∈ restCaptures target actuals, P entry.2 := by
  unfold restCaptures
  have hpassed : ∀ actual ∈ actuals.filter (accepts target), P actual := fun actual hmem =>
    hactuals actual (List.mem_of_mem_filter hmem)
  have hnone : ∀ entry ∈ ([] : Bindings), P entry.2 := List.forall_mem_nil _
  generalize ([] : Bindings) = known at hnone ⊢
  generalize actuals.filter (accepts target) = passed at hpassed ⊢
  induction passed generalizing known with
  | nil => exact hnone
  | cons actual rest ih =>
    have hrest : ∀ other ∈ rest, P other := fun other hmem =>
      hpassed other (List.mem_cons_of_mem _ hmem)
    apply ih _ _ hrest
    exact forall_record htext hlist hnone false target (hpassed actual List.mem_cons_self)

include htext hlist in
/-- What the rest adds. -/
theorem forall_bindRest (target : Value) {actuals : List Value}
    (hknown : ∀ entry ∈ known, P entry.2) (hactuals : ∀ actual ∈ actuals, P actual) :
    ∀ entry ∈ bindRest target actuals known, P entry.2 := by
  unfold bindRest
  dsimp only
  split
  · intro entry hmem
    rcases Keyed.eq_or_mem_of_mem_insert hmem with rfl | hbefore
    · exact hlist.mpr fun item hitem => hactuals item (List.mem_of_mem_filter hitem)
    · exact hknown entry hbefore
  · intro entry hmem
    rcases Keyed.mem_or_mem_of_mem_insertAll hmem with hcaptured | hbefore
    · exact forall_restCaptures htext hlist target hactuals entry hcaptured
    · exact hknown entry hbefore

include htext hlist in
/-- What holds of texts and of the arguments holds of every value that a match binds. -/
theorem forall_matchParams {formals actuals : List Value}
    (hactuals : ∀ actual ∈ actuals, P actual)
    (hfound : matchParams formals actuals = some found) : ∀ entry ∈ found, P entry.2 := by
  have hnone : ∀ entry ∈ ([] : Bindings), P entry.2 := List.forall_mem_nil _
  unfold matchParams at hfound
  split at hfound
  · split at hfound
    · exact forall_matchEach htext hlist hnone hactuals hfound
    · cases hfound
  · split at hfound
    · cases hfound
    · obtain ⟨first, hfirst, hrest⟩ := Option.bind_eq_some_iff.mp hfound
      obtain ⟨target, -, htarget⟩ := Option.bind_eq_some_iff.mp hrest
      cases htarget
      apply forall_bindRest htext hlist target
      · exact forall_matchEach htext hlist hnone hactuals hfirst
      · exact fun actual hmem => hactuals actual (List.mem_of_mem_drop hmem)

end Values

end ShapeLisp.Shape
