import ShapeLisp.Proofs.Shape.Bindings
import ShapeLisp.Regex.Engine
import Mathlib.Data.List.Forall2
import Mathlib.Data.List.TakeDrop

/-!
# What a match means

The matcher goes through shapes and arguments once, with one set of bindings that it changes as it
goes. What it computes can be said without that order of work. Whether it succeeds depends on the
test of each shape on its argument and on how many arguments there are. What a name is bound to is
decided name by name: by the rest when the rest binds it, and else by the single arguments, where a
symbol binds its argument and a named group the texts it has captured.
-/

namespace ShapeLisp.Shape

section AnyEngine

variable [Regex.Engine]

/-! ### Captured texts -/

/-- The texts captured under a name, in order. -/
def textsNamed (name : String) (texts : List (String × String)) : List String :=
  texts.filterMap fun entry => if entry.1 = name then some entry.2 else none

/-- What the texts captured under one name are bound to: a single text as it is, several as a
list. -/
def gathered : List String → Option Value
  | [] => none
  | [text] => some (.str text)
  | texts => some (.list (texts.map .str))

/-- What one more value makes of what a name has. -/
def joined : Option Value → Value → Value
  | none, value => value
  | some (.list items), value => .list (items ++ [value])
  | some first, value => .list [first, value]

/-- What texts, added one after the other, make of what a name has. -/
def joinedAll (known : Option Value) (texts : List String) : Option Value :=
  texts.foldl (fun known text => some (joined known (.str text))) known

omit [Regex.Engine] in
/-- A text is captured under a name exactly when the name has texts. -/
theorem textsNamed_eq_nil_iff {name : String} {texts : List (String × String)} :
    textsNamed name texts = [] ↔ name ∉ texts.map Prod.fst := by
  rw [textsNamed, List.filterMap_eq_nil_iff]
  constructor
  · intro hnone hmem
    obtain ⟨entry, hentry, rfl⟩ := List.mem_map.mp hmem
    have hother := hnone entry hentry
    rw [if_pos rfl] at hother
    cases hother
  · intro hname entry hentry
    rw [if_neg]
    rintro rfl
    exact hname (List.mem_map_of_mem hentry)

/-- Texts are added at the end of a list. -/
theorem joinedAll_list (items : List Value) (texts : List String) :
    joinedAll (some (.list items)) texts = some (.list (items ++ texts.map .str)) := by
  induction texts generalizing items with
  | nil => rw [joinedAll, List.foldl_nil, List.map_nil, List.append_nil]
  | cons text rest ih =>
    have hrest := ih (items ++ [.str text])
    rw [joinedAll] at hrest ⊢
    rw [List.foldl_cons, joined, hrest, List.map_cons, List.append_assoc, List.singleton_append]

/-- Texts added to nothing are gathered. -/
theorem joinedAll_none (texts : List String) : joinedAll none texts = gathered texts := by
  match texts with
  | [] => rfl
  | [_] => rfl
  | first :: second :: rest => exact joinedAll_list [.str first, .str second] rest

/-- A name that has a value keeps one when texts are added. -/
theorem isSome_joinedAll (known : Option Value) (texts : List String) :
    (joinedAll known texts).isSome = true ↔ known.isSome = true ∨ texts ≠ [] := by
  cases texts with
  | nil => simp [joinedAll]
  | cons text rest =>
    have hsome : ∀ (value : Value) (more : List String),
        (joinedAll (some value) more).isSome = true := by
      intro value more
      induction more generalizing value with
      | nil => rfl
      | cons next more ih => exact ih (joined (some value) (.str next))
    have hadded : (joinedAll known (text :: rest)).isSome = true :=
      hsome (joined known (.str text)) rest
    simp [hadded]

/-- Adding a value changes what its name has and nothing else. -/
theorem find?_accumulate (known : Bindings) (name other : String) (value : Value) :
    (accumulate known name value).find? other =
      if other = name then some (joined (known.find? name) value) else known.find? other := by
  by_cases hname : other = name
  · subst hname
    rw [if_pos rfl, accumulate]
    split
    · next items hfound => rw [Keyed.find?_insert_self, hfound, joined]
    · next first hlist hfound =>
      rw [Keyed.find?_insert_self, hfound, joined]
      exact hlist
    · next hfound => rw [Keyed.find?_insert_self, hfound, joined]
  · rw [if_neg hname, accumulate]
    split <;> rw [Keyed.find?_insert_of_ne hname]

/-- Adds captured texts one after the other. -/
def accumulateAll (known : Bindings) (texts : List (String × String)) : Bindings :=
  texts.foldl (fun known entry => accumulate known entry.1 (.str entry.2)) known

/-- Every name gets the texts that were captured under it. -/
theorem find?_accumulateAll (known : Bindings) (texts : List (String × String)) (name : String) :
    (accumulateAll known texts).find? name =
      joinedAll (known.find? name) (textsNamed name texts) := by
  induction texts generalizing known with
  | nil => rfl
  | cons entry rest ih =>
    have hrest := ih (accumulate known entry.1 (.str entry.2))
    rw [accumulateAll] at hrest ⊢
    rw [List.foldl_cons, hrest, find?_accumulate]
    by_cases hname : name = entry.1
    · have htexts : textsNamed name (entry :: rest) = entry.2 :: textsNamed name rest :=
        List.filterMap_cons_some (if_pos hname.symm)
      rw [if_pos hname, htexts, hname]
      rfl
    · have htexts : textsNamed name (entry :: rest) = textsNamed name rest :=
        List.filterMap_cons_none (if_neg (Ne.symm hname))
      rw [if_neg hname, htexts]

/-! ### Single arguments -/

/-- The texts that shapes capture from the arguments in their places, in order. -/
def capturedAll (pairs : List (Value × Value)) : List (String × String) :=
  pairs.flatMap fun pair => captured pair.1 pair.2

/-- Records accepted arguments one after the other. -/
def recordAll (known : Bindings) (pairs : List (Value × Value)) : Bindings :=
  pairs.foldl (fun known pair => record true pair.1 pair.2 known) known

/-- What an accepted argument adds when its shape is no symbol. -/
theorem record_of_not_sym (bind : Bool) {formal : Value} (h : ∀ name, formal ≠ .sym name)
    (actual : Value) (known : Bindings) :
    record bind formal actual known = accumulateAll known (captured formal actual) := by
  rw [record]
  · rfl
  · exact h

/-- A symbol that only tests adds nothing, as it captures nothing. -/
theorem record_false (formal actual : Value) (known : Bindings) :
    record false formal actual known = accumulateAll known (captured formal actual) := by
  by_cases hsym : ∃ name, formal = .sym name
  · obtain ⟨name, rfl⟩ := hsym
    rfl
  · exact record_of_not_sym false (not_exists.mp hsym) actual known

/-- Shapes that are tried one by one succeed when each accepts its argument, and record what they
accept. -/
theorem matchEach_eq_some_iff {formals actuals : List Value} {known found : Bindings} :
    matchEach formals actuals known = some found ↔
      formals.length ≤ actuals.length ∧
      List.Forall₂ (fun formal actual => accepts formal actual = true) formals
        (actuals.take formals.length) ∧
      found = recordAll known (formals.zip actuals) := by
  induction formals generalizing actuals known with
  | nil =>
    rw [matchEach, Option.some.injEq]
    constructor
    · rintro rfl
      exact ⟨Nat.zero_le _, .nil, rfl⟩
    · rintro ⟨-, -, rfl⟩
      rfl
  | cons formal formals ih =>
    cases actuals with
    | nil => simp [matchEach]
    | cons actual actuals =>
      rw [matchEach, matchOne]
      by_cases haccepts : accepts formal actual = true
      · rw [if_pos haccepts, Option.bind_some, ih]
        simp [haccepts, recordAll]
      · rw [if_neg haccepts, Option.bind_none]
        simp [haccepts]

/-- What the names have that no symbol among the shapes binds: the texts captured under them. -/
theorem find?_recordAll_of_not_sym (known : Bindings) {pairs : List (Value × Value)}
    {name : String} (h : .sym name ∉ pairs.map Prod.fst) :
    (recordAll known pairs).find? name =
      joinedAll (known.find? name) (textsNamed name (capturedAll pairs)) := by
  induction pairs generalizing known with
  | nil => rfl
  | cons pair rest ih =>
    obtain ⟨formal, actual⟩ := pair
    rw [List.map_cons, List.mem_cons, not_or] at h
    have hrest := ih (record true formal actual known) h.2
    have htexts : textsNamed name (capturedAll ((formal, actual) :: rest)) =
        textsNamed name (captured formal actual) ++ textsNamed name (capturedAll rest) := by
      rw [capturedAll, List.flatMap_cons, textsNamed, List.filterMap_append]
      rfl
    rw [recordAll] at hrest ⊢
    rw [List.foldl_cons, hrest, htexts, joinedAll, joinedAll, List.foldl_append]
    congr 1
    by_cases hsym : ∃ other, formal = .sym other
    · obtain ⟨other, rfl⟩ := hsym
      have hname : name ≠ other := by
        rintro rfl
        exact h.1 rfl
      exact Keyed.find?_insert_of_ne hname actual known
    · rw [record_of_not_sym true (not_exists.mp hsym)]
      exact find?_accumulateAll ..

/-- A symbol binds its argument, unless a later shape binds the name or captures a text under it. -/
theorem find?_recordAll_sym (known : Bindings) (before : List (Value × Value)) (name : String)
    (actual : Value) {after : List (Value × Value)} (hsym : .sym name ∉ after.map Prod.fst)
    (hcaptured : name ∉ (capturedAll after).map Prod.fst) :
    (recordAll known (before ++ (.sym name, actual) :: after)).find? name = some actual := by
  have hafter := find?_recordAll_of_not_sym
    (record true (.sym name) actual (recordAll known before)) hsym
  rw [textsNamed_eq_nil_iff.mpr hcaptured] at hafter
  rw [recordAll] at hafter ⊢
  rw [List.foldl_append, List.foldl_cons]
  refine hafter.trans ?_
  exact Keyed.find?_insert_self name actual _

/-- The names that single arguments bind: those of symbols and those of groups that have captured a
text. -/
theorem isSome_find?_recordAll (known : Bindings) (pairs : List (Value × Value)) (name : String) :
    ((recordAll known pairs).find? name).isSome = true ↔
      (known.find? name).isSome = true ∨ .sym name ∈ pairs.map Prod.fst ∨
        name ∈ (capturedAll pairs).map Prod.fst := by
  induction pairs generalizing known with
  | nil => simp [recordAll, capturedAll]
  | cons pair rest ih =>
    obtain ⟨formal, actual⟩ := pair
    have hrest := ih (record true formal actual known)
    have hfirst : ((record true formal actual known).find? name).isSome = true ↔
        (known.find? name).isSome = true ∨ .sym name = formal ∨
          name ∈ (captured formal actual).map Prod.fst := by
      by_cases hsym : ∃ other, formal = .sym other
      · obtain ⟨other, rfl⟩ := hsym
        by_cases hname : name = other
        · subst hname
          simp [record]
        · simp [record, captured, hname]
      · have hother : Value.sym name ≠ formal := fun h => hsym ⟨name, h.symm⟩
        rw [record_of_not_sym true (not_exists.mp hsym), find?_accumulateAll, isSome_joinedAll,
          Ne, textsNamed_eq_nil_iff, not_not]
        simp only [hother, false_or]
    rw [recordAll] at hrest ⊢
    rw [List.foldl_cons, hrest, hfirst]
    simp only [capturedAll, List.flatMap_cons, List.map_cons, List.map_append, List.mem_cons,
      List.mem_append]
    tauto

/-! ### The rest -/

/-- The texts that a shape captures from the arguments it accepts, in the order of the arguments. -/
def restTexts (target : Value) (actuals : List Value) : List (String × String) :=
  (actuals.filter (accepts target)).flatMap (captured target)

/-- What the rest binds a name to, none when it does not bind it. Where no text is captured, the
arguments that pass are bound as a list under one name; else each named group has its texts. -/
def restEntry (target : Value) (actuals : List Value) (name : String) : Option Value :=
  if restTexts target actuals = [] then
    if name = restKey target then some (.list (actuals.filter (accepts target))) else none
  else gathered (textsNamed name (restTexts target actuals))

/-- A symbol accepts all arguments that are left. -/
theorem filter_accepts_sym (name : String) (actuals : List Value) :
    actuals.filter (accepts (.sym name)) = actuals :=
  List.filter_eq_self.mpr fun _ _ => rfl

/-- A symbol binds all arguments that are left to its name. -/
theorem restEntry_sym (name : String) (actuals : List Value) :
    restEntry (.sym name) actuals name = some (.list actuals) := by
  have htexts : restTexts (.sym name) actuals = [] := List.flatMap_eq_nil_iff.mpr fun _ _ => rfl
  rw [restEntry, if_pos htexts, restKey, if_pos rfl, filter_accepts_sym]

/-- What the rest captures by name is made of its texts. -/
theorem restCaptures_eq (target : Value) (actuals : List Value) :
    restCaptures target actuals = accumulateAll [] (restTexts target actuals) := by
  rw [restCaptures, accumulateAll, restTexts, List.foldl_flatMap]
  simp only [record_false]
  rfl

/-- The rest captures nothing exactly when there are no texts. -/
theorem restCaptures_isEmpty_iff (target : Value) (actuals : List Value) :
    (restCaptures target actuals).isEmpty = true ↔ restTexts target actuals = [] := by
  rw [restCaptures_eq]
  generalize restTexts target actuals = texts
  cases texts with
  | nil => simp [accumulateAll]
  | cons entry more =>
    -- the name of the first text has an entry, so there is one
    have hentry : ((accumulateAll [] (entry :: more)).find? entry.1).isSome = true := by
      rw [find?_accumulateAll, isSome_joinedAll, Ne, textsNamed_eq_nil_iff]
      simp
    have hnonempty : accumulateAll [] (entry :: more) ≠ [] := by
      intro hempty
      rw [hempty] at hentry
      cases hentry
    simp [hnonempty]

/-- What the rest captures by name is in the order of the names. -/
theorem sorted_restCaptures (target : Value) (actuals : List Value) :
    (restCaptures target actuals).Sorted := by
  rw [restCaptures]
  have hempty : Keyed.Sorted ([] : Bindings) := List.Pairwise.nil
  generalize ([] : Bindings) = known at hempty ⊢
  induction actuals.filter (accepts target) generalizing known with
  | nil => exact hempty
  | cons actual more ih => exact ih _ (sorted_record hempty false target actual)

/-- What the rest binds goes before what single arguments have bound. -/
theorem find?_bindRest (target : Value) (actuals : List Value) (known : Bindings) (name : String) :
    (bindRest target actuals known).find? name =
      (restEntry target actuals name).or (known.find? name) := by
  rw [bindRest, restEntry]
  by_cases htexts : restTexts target actuals = []
  · rw [if_pos ((restCaptures_isEmpty_iff target actuals).mpr htexts), if_pos htexts]
    by_cases hname : name = restKey target
    · rw [hname, Keyed.find?_insert_self, if_pos rfl, Option.some_or]
    · rw [Keyed.find?_insert_of_ne hname, if_neg hname, Option.none_or]
  · have hcaptures : ¬(restCaptures target actuals).isEmpty = true := fun h =>
      htexts ((restCaptures_isEmpty_iff target actuals).mp h)
    rw [if_neg hcaptures, if_neg htexts, Keyed.find?_insertAll (sorted_restCaptures target actuals),
      restCaptures_eq, find?_accumulateAll, Keyed.find?, joinedAll_none]

/-! ### Whole matches -/

/-- The bindings of single arguments, with those of the rest going before them. -/
structure Binds (fixed actuals : List Value) (rest : String → Option Value) (found : Bindings) :
    Prop where
  /-- The names bound are those of symbols, of groups that have captured a text, and of the rest. -/
  names : ∀ name, name ∈ found.keys ↔
    .sym name ∈ fixed ∨ name ∈ (capturedAll (fixed.zip actuals)).map Prod.fst ∨
      (rest name).isSome = true
  /-- What the rest binds is bound so. -/
  first : ∀ name value, rest name = some value → found.find? name = some value
  /-- A symbol binds the argument in its place, unless the rest or a later shape binds the name. -/
  symbol : ∀ before name after, fixed = before ++ .sym name :: after → .sym name ∉ after →
    name ∉ (capturedAll (after.zip (actuals.drop (before.length + 1)))).map Prod.fst →
    rest name = none → found.find? name = actuals[before.length]?
  /-- A named group binds its texts, unless the rest or a symbol binds the name. -/
  group : ∀ name, .sym name ∉ fixed → rest name = none →
    found.find? name = gathered (textsNamed name (capturedAll (fixed.zip actuals)))

/-- Shapes and arguments are as many pairs as shapes when there are enough arguments. -/
theorem map_fst_zip_of_le {fixed actuals : List Value} (h : fixed.length ≤ actuals.length) :
    (fixed.zip actuals).map Prod.fst = fixed := by
  rw [List.map_fst_zip h]

/-- Bindings that are the rest's or else those of single arguments. -/
theorem binds_of_find? {fixed actuals : List Value} {rest : String → Option Value}
    {found : Bindings} (hlength : fixed.length ≤ actuals.length)
    (hfound : ∀ name, found.find? name =
      (rest name).or ((recordAll [] (fixed.zip actuals)).find? name)) :
    Binds fixed actuals rest found where
  names name := by
    have hsingle := isSome_find?_recordAll [] (fixed.zip actuals) name
    rw [map_fst_zip_of_le hlength] at hsingle
    rw [← Keyed.isSome_find?_iff, hfound, Option.isSome_or, Bool.or_eq_true, hsingle]
    simp only [Keyed.find?, Option.isSome_none, Bool.false_eq_true, false_or]
    tauto
  first name value hvalue := by rw [hfound, hvalue, Option.some_or]
  symbol before name after hfixed hlater hcaptured hrest := by
    subst hfixed
    rw [List.length_append, List.length_cons] at hlength
    have hplace : before.length < actuals.length := by omega
    have hactuals : actuals = actuals.take before.length ++
        actuals.get ⟨before.length, hplace⟩ :: actuals.drop (before.length + 1) := by
      rw [List.get_eq_getElem, ← List.drop_eq_getElem_cons, List.take_append_drop]
    have hpairs : (before ++ .sym name :: after).zip actuals =
        before.zip (actuals.take before.length) ++
          (.sym name, actuals.get ⟨before.length, hplace⟩) ::
            after.zip (actuals.drop (before.length + 1)) := by
      conv_lhs => rw [hactuals]
      rw [List.zip_append, List.zip_cons_cons]
      rw [List.length_take, Nat.min_eq_left (Nat.le_of_lt hplace)]
    have hafter : after.length ≤ (actuals.drop (before.length + 1)).length := by
      rw [List.length_drop]
      omega
    rw [hfound, hrest, Option.none_or, hpairs, find?_recordAll_sym, List.get_eq_getElem,
      List.getElem?_eq_getElem hplace]
    · rwa [map_fst_zip_of_le hafter]
    · exact hcaptured
  group name hname hrest := by
    rw [hfound, hrest, Option.none_or, find?_recordAll_of_not_sym, Keyed.find?, joinedAll_none]
    rwa [map_fst_zip_of_le hlength]

end AnyEngine

end ShapeLisp.Shape
