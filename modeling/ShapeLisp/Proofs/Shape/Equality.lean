import ShapeLisp.Proofs.Keyed
import ShapeLisp.Proofs.Value.Equality
import ShapeLisp.Scope.Store
import ShapeLisp.Regex.Engine

/-!
# Matching respects equality

Shapes look at arguments in many ways: they compare them, ask whether they lie in a range, search
their text. None of these tells equal values apart, and neither does it matter which of two equal
shapes is asked. So equal parameters and equal arguments match alike, and what they bind is equal
name by name; and a call with equal arguments finds the same binding.
-/

namespace ShapeLisp.Shape

section AnyEngine

variable [Regex.Engine]

/-- The values are equal. -/
def Equal (a b : Value) : Prop := (a == b) = true

/-- The values are equal one by one. -/
def EqualAll (as bs : List Value) : Prop := List.Forall₂ Equal as bs

/-- The values are identical or equal. A value that holds what is not a number is identical to
itself without being equal to itself. -/
def Alike (a b : Value) : Prop := a = b ∨ Equal a b

/-- The values are identical or equal one by one. -/
def AlikeAll (as bs : List Value) : Prop := List.Forall₂ Alike as bs

section Tests

variable {formal formal' actual actual' : Value}

/-- Equality with a third value does not tell equal values apart. -/
theorem Equal.indistinct {a b : Value} (h : Equal a b) (c : Value) :
    (a == c) = (b == c) ∧ (c == a) = (c == b) :=
  Value.indistinct_of_beq a b h c

/-- Alike values have the same form. -/
theorem Alike.sameForm {a b : Value} (h : Alike a b) : Value.SameForm a b := by
  rcases h with rfl | hequal
  · exact .same a
  · exact Value.sameForm_of_beq hequal

/-- Equality with a third value does not tell alike values apart. -/
theorem Alike.indistinct {a b : Value} (h : Alike a b) (c : Value) : (a == c) = (b == c) := by
  rcases h with rfl | hequal
  · rfl
  · exact (hequal.indistinct c).1

/-- A text equals itself. -/
theorem equal_str (text : String) : Equal (.str text) (.str text) := beq_self_eq_true text

/-- Lists of equal items are equal. -/
theorem EqualAll.list {as bs : List Value} (h : EqualAll as bs) : Equal (.list as) (.list bs) :=
  Value.beqAll_iff.mpr h

/-- Equal values have the same text. -/
theorem Equal.text?_eq (h : Equal actual actual') : actual.text? = actual'.text? := by
  cases Value.sameForm_of_beq h <;> rfl

/-- Alike shapes announce a rest parameter alike. -/
theorem Alike.isRestMarker_eq (h : Alike formal formal') :
    isRestMarker formal = isRestMarker formal' := by
  cases h.sameForm <;> rfl

/-- The rest is bound under the same name. -/
theorem Alike.restKey_eq (h : Alike formal formal') : restKey formal = restKey formal' := by
  cases h.sameForm <;> rfl

/-- Whether a value is a number between two bounds. -/
def isBetween (low high : Float) : Value → Bool
  | .num x => low ≤ x && x ≤ high
  | _ => false

/-- Equal values lie alike between bounds. -/
theorem Equal.isBetween_eq (h : Equal actual actual') (low high : Float) :
    isBetween low high actual = isBetween low high actual' := by
  cases Value.sameForm_of_beq h with
  | num hnumbers =>
    have hlow := (Number.le_congr hnumbers low).2
    have hhigh := (Number.le_congr hnumbers high).1
    simp only [isBetween, hlow, hhigh]
  | _ => rfl

/-- A range contains equal values alike. -/
theorem rangeContains_actual (range : Value) (h : Equal actual actual') :
    rangeContains range actual = rangeContains range actual' := by
  cases hbounds : range.bounds? with
  | none => simp only [rangeContains, hbounds]
  | some bounds =>
    obtain ⟨low, high⟩ := bounds
    simp only [rangeContains, hbounds]
    cases Value.sameForm_of_beq h with
    | same => rfl
    | num => exact h.isBetween_eq low high
    | range hlow hhigh =>
      have habove := (Number.le_congr hhigh low).2
      have hbelow := (Number.le_congr hlow high).1
      simp only [habove, hbelow]
    | list hitems =>
      have hall : ∀ {items others : List Value}, EqualAll items others →
          items.all (isBetween low high) = others.all (isBetween low high) := by
        intro items others hequal
        induction hequal with
        | nil => rfl
        | cons hitem _ ih => rw [List.all_cons, List.all_cons, hitem.isBetween_eq, ih]
      exact hall (Value.beqAll_iff.mp hitems)
    | _ => rfl

/-- Equal ranges contain the same values. -/
theorem accepts_range {a b c d : Float} {s t : Option Float}
    (hlow : (Number.lesser a b == Number.lesser c d) = true)
    (hhigh : (Number.greater a b == Number.greater c d) = true) (actual : Value) :
    accepts (.range a b s) actual = accepts (.range c d t) actual := by
  have hbelow := fun x => (Number.le_congr hlow x).1
  have habove := fun x => (Number.le_congr hhigh x).2
  simp only [accepts, rangeContains, Value.bounds?, hbelow, habove]

/-- Alike shapes accept equal arguments alike. -/
theorem accepts_eq (hformal : Alike formal formal') (hactual : Equal actual actual') :
    accepts formal actual = accepts formal' actual' := by
  have hargument : accepts formal actual = accepts formal actual' := by
    cases formal with
    | quoted inner => exact (hactual.indistinct inner).2
    | range start stop step => exact rangeContains_actual (.range start stop step) hactual
    | regex literal => simp only [accepts, hactual.text?_eq]
    | sym name => rfl
    | _ => exact (hactual.indistinct _).2
  rw [hargument]
  cases hformal.sameForm with
  | same => rfl
  | quoted hinner => exact (Value.indistinct_of_beq _ _ hinner actual').1
  | range hlow hhigh => exact accepts_range hlow hhigh actual'
  | _ => exact hformal.indistinct actual'

/-- Alike shapes find the same texts in equal arguments. -/
theorem captured_eq (hformal : Alike formal formal') (hactual : Equal actual actual') :
    captured formal actual = captured formal' actual' := by
  have hargument : captured formal actual = captured formal actual' := by
    cases formal <;> simp only [captured, hactual.text?_eq]
  rw [hargument]
  cases hformal.sameForm <;> rfl

end Tests

/-! ### Bindings -/

/-- The bindings are of the same names, and to equal values. -/
def EqualBindings (known known' : Bindings) : Prop :=
  List.Forall₂ (fun entry entry' => entry.1 = entry'.1 ∧ Equal entry.2 entry'.2) known known'

namespace EqualBindings

variable {known known' : Bindings} {value value' : Value}

/-- The names are the same. -/
theorem keys_eq (h : EqualBindings known known') : known.keys = known'.keys := by
  induction h with
  | nil => rfl
  | cons hentry _ ih => exact congrArg₂ List.cons hentry.1 ih

/-- What a name is bound to is equal. -/
theorem find? (h : EqualBindings known known') (name : String) :
    Option.Rel Equal (known.find? name) (known'.find? name) := by
  induction h with
  | nil => exact .none
  | @cons entry entry' rest rest' hentry _ ih =>
    obtain ⟨key, item⟩ := entry
    obtain ⟨key', item'⟩ := entry'
    obtain ⟨rfl, hequal⟩ := hentry
    simp only [Keyed.find?]
    split
    · exact .some hequal
    · exact ih

/-- Equal values are put in under one name. -/
theorem insert (h : EqualBindings known known') (name : String) (hvalue : Equal value value') :
    EqualBindings (known.insert name value) (known'.insert name value') := by
  induction h with
  | nil => exact .cons ⟨rfl, hvalue⟩ .nil
  | @cons entry entry' rest rest' hentry hrest ih =>
    obtain ⟨key, item⟩ := entry
    obtain ⟨key', item'⟩ := entry'
    obtain ⟨rfl, hequal⟩ := hentry
    simp only [Keyed.insert]
    split
    · exact .cons ⟨rfl, hvalue⟩ hrest
    · split
      · exact .cons ⟨rfl, hvalue⟩ (.cons ⟨rfl, hequal⟩ hrest)
      · exact .cons ⟨rfl, hequal⟩ ih

/-- Equal bindings are put in one after the other. -/
theorem insertAll (h : EqualBindings known known') {more more' : Bindings}
    (hmore : EqualBindings more more') :
    EqualBindings (known.insertAll more) (known'.insertAll more') := by
  induction hmore generalizing known known' with
  | nil => exact h
  | @cons entry entry' _ _ hentry _ ih =>
    obtain ⟨key, item⟩ := entry
    obtain ⟨key', item'⟩ := entry'
    obtain ⟨rfl, hequal⟩ := hentry
    exact ih (h.insert key hequal)

/-- Equal values are added under one name. -/
theorem accumulate (h : EqualBindings known known') (name : String) (hvalue : Equal value value') :
    EqualBindings (Shape.accumulate known name value) (Shape.accumulate known' name value') := by
  have hpair : ∀ {first first' : Value}, Equal first first' →
      Equal (.list [first, value]) (.list [first', value']) :=
    fun hfirst => EqualAll.list (.cons hfirst (.cons hvalue .nil))
  have hlist : ∀ {items items' : List Value}, Value.beqAll items items' = true →
      Equal (.list (items ++ [value])) (.list (items' ++ [value'])) :=
    fun hitems => EqualAll.list (List.rel_append (Value.beqAll_iff.mp hitems) (.cons hvalue .nil))
  have hfound := h.find? name
  unfold Shape.accumulate
  generalize known.find? name = found at hfound
  generalize known'.find? name = found' at hfound
  cases hfound with
  | none => exact h.insert name hvalue
  | @some first first' hequal =>
    cases Value.sameForm_of_beq hequal with
    | list hitems => exact h.insert name (hlist hitems)
    | same =>
      cases first with
      | list items => exact h.insert name (hlist hequal)
      | _ => exact h.insert name (hpair hequal)
    | _ => exact h.insert name (hpair hequal)

/-- What alike shapes record of equal arguments is equal. -/
theorem record (h : EqualBindings known known') (bind : Bool)
    {formal formal' actual actual' : Value} (hformal : Alike formal formal')
    (hactual : Equal actual actual') :
    EqualBindings (Shape.record bind formal actual known)
      (Shape.record bind formal' actual' known') := by
  have htexts : ∀ texts : List (String × String), EqualBindings
      (texts.foldl (fun known entry => Shape.accumulate known entry.1 (.str entry.2)) known)
      (texts.foldl (fun known entry => Shape.accumulate known entry.1 (.str entry.2)) known') := by
    intro texts
    induction texts generalizing known known' with
    | nil => exact h
    | cons entry rest ih => exact ih (h.accumulate entry.1 (equal_str entry.2))
  have hrecorded : EqualBindings
      ((captured formal actual).foldl
        (fun known entry => Shape.accumulate known entry.1 (.str entry.2)) known)
      ((captured formal' actual').foldl
        (fun known entry => Shape.accumulate known entry.1 (.str entry.2)) known') := by
    rw [captured_eq hformal hactual]
    exact htexts _
  cases hformal.sameForm with
  | same =>
    cases formal with
    | sym name =>
      cases bind with
      | false => exact h
      | true => exact h.insert name hactual
    | _ => exact hrecorded
  | _ => exact hrecorded

end EqualBindings

/-! ### Matches -/

/-- Two matches fail both, or both succeed with equal bindings. -/
abbrev EqualMatches : Option Bindings → Option Bindings → Prop := Option.Rel EqualBindings

/-- Both succeed or neither. -/
theorem EqualMatches.isSome_eq {found found' : Option Bindings} (h : EqualMatches found found') :
    found.isSome = found'.isSome := by
  cases h <;> rfl

/-- Alike shapes match equal arguments alike, one by one. -/
theorem matchEach_equal {formals formals' actuals actuals' : List Value}
    (hformals : AlikeAll formals formals') (hactuals : EqualAll actuals actuals')
    {known known' : Bindings} (hknown : EqualBindings known known') :
    EqualMatches (matchEach formals actuals known) (matchEach formals' actuals' known') := by
  induction hformals generalizing actuals actuals' known known' with
  | nil => exact .some hknown
  | cons hformal _ ih =>
    cases hactuals with
    | nil => exact .none
    | cons hactual hothers =>
      simp only [matchEach, matchOne, accepts_eq hformal hactual]
      split
      · exact ih hothers (hknown.record true hformal hactual)
      · exact .none

/-- Alike shapes keep equal arguments. -/
theorem filter_equal {target target' : Value} (htarget : Alike target target')
    {actuals actuals' : List Value} (hactuals : EqualAll actuals actuals') :
    EqualAll (actuals.filter (accepts target)) (actuals'.filter (accepts target')) := by
  induction hactuals with
  | nil => exact .nil
  | cons hactual _ ih =>
    rw [List.filter_cons, List.filter_cons, accepts_eq htarget hactual]
    split
    · exact .cons hactual ih
    · exact ih

/-- What is captured in the rest is equal. -/
theorem restCaptures_equal {target target' : Value} (htarget : Alike target target')
    {actuals actuals' : List Value} (hactuals : EqualAll actuals actuals') :
    EqualBindings (restCaptures target actuals) (restCaptures target' actuals') := by
  have hfold : ∀ {kept kept' : List Value}, EqualAll kept kept' → ∀ {known known' : Bindings},
      EqualBindings known known' → EqualBindings
        (kept.foldl (fun known actual => record false target actual known) known)
        (kept'.foldl (fun known actual => record false target' actual known) known') := by
    intro kept kept' hkept
    induction hkept with
    | nil => exact fun hknown => hknown
    | cons hactual _ ih => exact fun hknown => ih (hknown.record false htarget hactual)
  exact hfold (filter_equal htarget hactuals) .nil

/-- What the rest binds is equal. -/
theorem bindRest_equal {target target' : Value} (htarget : Alike target target')
    {actuals actuals' : List Value} (hactuals : EqualAll actuals actuals')
    {known known' : Bindings} (hknown : EqualBindings known known') :
    EqualBindings (bindRest target actuals known) (bindRest target' actuals' known') := by
  have hcaptures := restCaptures_equal htarget hactuals
  have hempty :
      (restCaptures target actuals).isEmpty = (restCaptures target' actuals').isEmpty := by
    rw [Bool.eq_iff_iff, List.isEmpty_iff_length_eq_zero, List.isEmpty_iff_length_eq_zero,
      List.Forall₂.length_eq hcaptures]
  simp only [bindRest, hempty, htarget.restKey_eq]
  split
  · exact hknown.insert _ (filter_equal htarget hactuals).list
  · exact hknown.insertAll hcaptures

/-- Alike parameters have their rest marker at the same place. -/
theorem splitRest_alike {formals formals' : List Value} (h : AlikeAll formals formals') :
    AlikeAll (splitRest formals).1 (splitRest formals').1 ∧
      AlikeAll (splitRest formals).2 (splitRest formals').2 := by
  simp only [splitRest, List.span_eq_takeWhile_dropWhile]
  induction h with
  | nil => exact ⟨.nil, .nil⟩
  | @cons formal formal' rest rest' hformal hrest ih =>
    rw [List.takeWhile_cons, List.takeWhile_cons, List.dropWhile_cons, List.dropWhile_cons,
      hformal.isRestMarker_eq]
    split
    · exact ⟨.cons hformal ih.1, ih.2⟩
    · exact ⟨.nil, .cons hformal hrest⟩

/-- Alike parameters match equal arguments alike. -/
theorem matchParams_equal {formals formals' actuals actuals' : List Value}
    (hformals : AlikeAll formals formals') (hactuals : EqualAll actuals actuals') :
    EqualMatches (matchParams formals actuals) (matchParams formals' actuals') := by
  obtain ⟨hfixed, hmarked⟩ := splitRest_alike hformals
  unfold matchParams
  generalize splitRest formals = parts at hfixed hmarked ⊢
  generalize splitRest formals' = parts' at hfixed hmarked ⊢
  obtain ⟨fixed, marked⟩ := parts
  obtain ⟨fixed', marked'⟩ := parts'
  have hempty : EqualBindings [] [] := .nil
  have hmatches := matchEach_equal hfixed hactuals hempty
  have hlength : actuals.length = actuals'.length := List.Forall₂.length_eq hactuals
  have hlengthFixed : fixed.length = fixed'.length := List.Forall₂.length_eq hfixed
  dsimp only at hmarked hmatches
  cases hmarked with
  | nil =>
    dsimp only
    rw [hlength, hlengthFixed]
    split
    · exact hmatches
    · exact .none
  | cons _ hfollowing =>
    dsimp only
    rw [hlength, hlengthFixed]
    split
    · exact .none
    · generalize matchEach fixed actuals [] = found at hmatches ⊢
      generalize matchEach fixed' actuals' [] = found' at hmatches ⊢
      cases hmatches with
      | none => exact .none
      | some hknown =>
        cases hfollowing with
        | nil => exact .none
        | cons htarget _ =>
          exact .some (bindRest_equal htarget (List.forall₂_drop fixed'.length hactuals) hknown)

/-! ### Calls -/

/-- Equal arguments choose the same binding. -/
theorem choose_equal {actuals actuals' : List Value} (h : EqualAll actuals actuals') :
    Store.choose actuals = Store.choose actuals' := by
  have hbinding : Store.matchesArgs actuals = Store.matchesArgs actuals' := by
    funext binding
    unfold Store.matchesArgs
    split
    · next params _ _ _ _ =>
      have hparams : AlikeAll params params := List.forall₂_same.mpr fun _ _ => .inl rfl
      exact (matchParams_equal hparams h).isSome_eq
    · rfl
  funext candidates
  simp only [Store.choose, hbinding]

/-- Equal parameters and equal arguments, one by one, match both or neither, and what they bind are
the same names and equal values. So a call finds the same binding with equal arguments, in every
scope and under every name. -/
theorem matching_respects_equality {formals formals' actuals actuals' : List Value}
    (hformals : List.Forall₂ (fun a b => (a == b) = true) formals formals')
    (hactuals : List.Forall₂ (fun a b => (a == b) = true) actuals actuals') :
    ((matchParams formals actuals).isSome = (matchParams formals' actuals').isSome ∧
      ∀ found found', matchParams formals actuals = some found →
        matchParams formals' actuals' = some found' →
          found.keys = found'.keys ∧ ∀ name value value', found.find? name = some value →
            found'.find? name = some value' → (value == value') = true) ∧
    ∀ (store : Store) (id : ScopeId) (name : String),
      store.dispatch id name actuals = store.dispatch id name actuals' := by
  have hmatches := matchParams_equal (hformals.imp fun _ _ => .inr) hactuals
  refine ⟨⟨hmatches.isSome_eq, ?bound⟩, ?calls⟩
  case bound =>
    intro found found' hfound hfound'
    rw [hfound, hfound'] at hmatches
    cases hmatches with
    | some hknown =>
      refine ⟨hknown.keys_eq, ?_⟩
      intro name value value' hvalue hvalue'
      have hequal := hknown.find? name
      rw [hvalue, hvalue'] at hequal
      cases hequal with
      | some hequal => exact hequal
  case calls =>
    intro store id name
    simp only [Store.dispatch, choose_equal hactuals]

end AnyEngine

/-- A range in either direction accepts a zero of either sign, and the ranges in the rest are bound
in either direction. -/
theorem matching_respects_equality_of_direction :
    ∃ found found', matchParams [.range 5 0 none, .sym "...", .sym "x"] [.num 0, .range 1 2 none] =
        some found ∧
      matchParams [.range 0 5 none, .sym "...", .sym "x"] [.num (-0), .range 2 1 none] =
        some found' ∧ found.keys = found'.keys := by
  have hformals : List.Forall₂ (fun a b : Value => (a == b) = true)
      [.range 5 0 none, .sym "...", .sym "x"] [.range 0 5 none, .sym "...", .sym "x"] :=
    .cons (by decide +kernel) (.cons rfl (.cons rfl .nil))
  have hactuals : List.Forall₂ (fun a b : Value => (a == b) = true)
      [.num 0, .range 1 2 none] [.num (-0), .range 2 1 none] :=
    .cons (by decide +kernel) (.cons (by decide +kernel) .nil)
  have hrespects := (matching_respects_equality hformals hactuals).1
  have hmatches : (matchParams [.range 5 0 none, .sym "...", .sym "x"]
      [.num 0, .range 1 2 none]).isSome = true := by decide +kernel
  obtain ⟨found, hfound⟩ := Option.isSome_iff_exists.mp hmatches
  obtain ⟨found', hfound'⟩ := Option.isSome_iff_exists.mp (hrespects.1.symm.trans hmatches)
  exact ⟨found, found', hfound, hfound', (hrespects.2 found found' hfound hfound').1⟩

end ShapeLisp.Shape
