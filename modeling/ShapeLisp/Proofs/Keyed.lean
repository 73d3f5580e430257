import ShapeLisp.Keyed
import Mathlib.Data.String.Basic

/-!
# Entries under keys

What is found after an insertion, and the order of the keys. An entry that is put in is found under
its key and changes nothing under other keys, whether the keys are in order or not; keys in order
stay in order, and entries that arrive in the order of their keys are appended.
-/

namespace ShapeLisp.Keyed

variable {α : Type}

/-- An entry is found under the key it was put in with. -/
@[simp]
theorem find?_insert_self (key : String) (entry : α) (known : Keyed α) :
    find? (insert key entry known) key = some entry := by
  fun_induction insert key entry known with
  | case1 => rw [find?, if_pos rfl]
  | case2 => rw [find?, if_pos rfl]
  | case3 => rw [find?, if_pos rfl]
  | case4 name old rest hne hlt ih => rw [find?, if_neg (Ne.symm hne), ih]

/-- Putting an entry in changes nothing under other keys. -/
@[simp]
theorem find?_insert_of_ne {key other : String} (hne : other ≠ key) (entry : α)
    (known : Keyed α) : find? (insert key entry known) other = find? known other := by
  fun_induction insert key entry known with
  | case1 => simp only [find?, if_neg (Ne.symm hne)]
  | case2 old rest => simp only [find?, if_neg (Ne.symm hne)]
  | case3 name old rest hname hlt => rw [find?, if_neg (Ne.symm hne)]
  | case4 name old rest hname hlt ih => simp only [find?, ih]

/-- The keys after an insertion are the key and those before. -/
theorem mem_keys_insert {key other : String} {entry : α} {known : Keyed α} :
    other ∈ (insert key entry known).keys ↔ other = key ∨ other ∈ known.keys := by
  unfold keys
  fun_induction insert key entry known with
  | case1 => simp
  | case2 old rest => simp
  | case3 name old rest hname hlt => simp
  | case4 name old rest hname hlt ih =>
    simp only [List.map_cons, List.mem_cons, ih]
    tauto

/-- The members after an insertion are the new one and some of those before. -/
theorem eq_or_mem_of_mem_insert {key : String} {entry : α} {known : Keyed α} {member : String × α}
    (h : member ∈ insert key entry known) : member = (key, entry) ∨ member ∈ known := by
  fun_induction insert key entry known with
  | case1 => exact .inl (List.mem_singleton.mp h)
  | case2 old rest =>
    rcases List.mem_cons.mp h with rfl | hrest
    · exact .inl rfl
    · exact .inr (List.mem_cons_of_mem _ hrest)
  | case3 name old rest hname hlt => exact List.mem_cons.mp h
  | case4 name old rest hname hlt ih =>
    rcases List.mem_cons.mp h with rfl | hrest
    · exact .inr List.mem_cons_self
    · exact (ih hrest).imp_right (List.mem_cons_of_mem _)

/-- An entry that is found is a member. -/
theorem mem_of_find? {known : Keyed α} {key : String} {entry : α}
    (h : find? known key = some entry) : (key, entry) ∈ known := by
  fun_induction find? known key with
  | case1 => cases h
  | case2 key first rest =>
    obtain rfl := Option.some.inj h
    exact List.mem_cons_self
  | case3 key name first rest hname ih => exact List.mem_cons_of_mem _ (ih h)

/-- The members after entries were put in are among them or among those before. -/
theorem mem_or_mem_of_mem_insertAll {known : Keyed α} {more : List (String × α)}
    {member : String × α} (h : member ∈ insertAll known more) : member ∈ more ∨ member ∈ known := by
  induction more generalizing known with
  | nil => exact .inr h
  | cons entry rest ih =>
    rcases ih h with hrest | hknown
    · exact .inl (List.mem_cons_of_mem _ hrest)
    · rcases eq_or_mem_of_mem_insert hknown with rfl | hbefore
      · exact .inl List.mem_cons_self
      · exact .inr hbefore

/-- Keys in order stay in order. -/
theorem Sorted.insert {known : Keyed α} (h : known.Sorted) (key : String) (entry : α) :
    (Keyed.insert key entry known).Sorted := by
  fun_induction Keyed.insert key entry known with
  | case1 => exact List.pairwise_singleton ..
  | case2 old rest => exact h
  | case3 name old rest hname hlt =>
    have hrest := List.pairwise_cons.mp h
    refine List.pairwise_cons.mpr ⟨fun other hmem => ?_, h⟩
    rcases List.mem_cons.mp hmem with rfl | htail
    · exact hlt
    · exact lt_trans hlt (hrest.1 other htail)
  | case4 name old rest hname hlt ih =>
    have hrest := List.pairwise_cons.mp h
    refine List.pairwise_cons.mpr ⟨fun other hmem => ?_, ih hrest.2⟩
    rcases mem_keys_insert.mp hmem with rfl | htail
    · exact lt_of_le_of_ne (not_lt.mp hlt) (Ne.symm hname)
    · exact hrest.1 other htail

/-- An entry whose key comes after all others is appended. -/
theorem insert_eq_append {known : Keyed α} {key : String} (h : ∀ other ∈ known.keys, other < key)
    (entry : α) : insert key entry known = known ++ [(key, entry)] := by
  induction known with
  | nil => rfl
  | cons first rest ih =>
    obtain ⟨name, old⟩ := first
    have hname : name < key := h name (by simp [keys])
    rw [insert, if_neg (ne_of_gt hname), if_neg (lt_asymm hname), List.cons_append,
      ih fun other hmem => h other (List.mem_cons_of_mem _ hmem)]

/-- Keys stay in order when entries are put in one after the other. -/
theorem Sorted.insertAll {known : Keyed α} (h : known.Sorted) (more : List (String × α)) :
    (Keyed.insertAll known more).Sorted := by
  induction more generalizing known with
  | nil => exact h
  | cons entry rest ih => exact ih (h.insert entry.1 entry.2)

/-- A key that is not among the keys has no entry. -/
theorem find?_eq_none {known : Keyed α} {key : String} (h : key ∉ known.keys) :
    find? known key = none := by
  induction known with
  | nil => rfl
  | cons entry rest ih =>
    obtain ⟨name, value⟩ := entry
    simp only [keys, List.map_cons, List.mem_cons, not_or] at h
    rw [find?, if_neg (Ne.symm h.1), ih h.2]

/-- The keys are those under which an entry is found. -/
theorem isSome_find?_iff {known : Keyed α} {key : String} :
    (find? known key).isSome = true ↔ key ∈ known.keys := by
  constructor
  · intro hsome
    by_contra hkey
    rw [find?_eq_none hkey] at hsome
    cases hsome
  · intro hkey
    induction known with
    | nil => cases hkey
    | cons entry rest ih =>
      obtain ⟨name, value⟩ := entry
      rw [find?]
      split
      · rfl
      · next hname => exact ih ((List.mem_cons.mp hkey).resolve_left (Ne.symm hname))

/-- Entries that are put in, each under a key of its own, hide what was there before. -/
theorem find?_insertAll {more : Keyed α} (hsorted : more.Sorted) (known : Keyed α) (key : String) :
    find? (insertAll known more) key = (find? more key).or (find? known key) := by
  induction more generalizing known with
  | nil => rfl
  | cons entry rest ih =>
    obtain ⟨name, value⟩ := entry
    obtain ⟨hlater, hrest⟩ := List.pairwise_cons.mp hsorted
    rw [insertAll, List.foldl_cons, ← insertAll, ih hrest, find?]
    by_cases hname : name = key
    · subst hname
      have hnone : find? rest name = none :=
        find?_eq_none fun hmem => lt_irrefl name (hlater name hmem)
      rw [hnone, Option.none_or, find?_insert_self, if_pos rfl, Option.some_or]
    · rw [if_neg hname, find?_insert_of_ne (Ne.symm hname)]

/-- Where keys are in order the members are the entries that are found. -/
theorem Sorted.mem_iff {known : Keyed α} (h : known.Sorted) {key : String} {entry : α} :
    (key, entry) ∈ known ↔ find? known key = some entry := by
  refine ⟨fun hmem => ?_, mem_of_find?⟩
  induction known with
  | nil => cases hmem
  | cons first rest ih =>
    obtain ⟨name, value⟩ := first
    obtain ⟨hlater, hrest⟩ := List.pairwise_cons.mp h
    rw [find?]
    rcases List.mem_cons.mp hmem with heq | htail
    · obtain ⟨rfl, rfl⟩ := Prod.mk.inj heq
      exact if_pos rfl
    · have hlt : name < key := hlater key (List.mem_map_of_mem htail)
      rw [if_neg hlt.ne, ih hrest htail]

/-- No member occurs twice where keys are in order. -/
theorem Sorted.nodup {known : Keyed α} (h : known.Sorted) : List.Nodup known := by
  refine (List.pairwise_map.mp h).imp ?_
  rintro first second hlt rfl
  exact lt_irrefl _ hlt

/-- The entries that a function keeps, changed by it, each under its key. -/
def filterEntries {β : Type} (f : α → Option β) (known : Keyed α) : Keyed β :=
  known.filterMap fun (key, entry) => (f entry).map fun kept => (key, kept)

section FilterEntries

variable {β : Type} {f : α → Option β} {name : String} {entry : α} {rest : Keyed α}

/-- An entry is left out. -/
theorem filterEntries_cons_of_none (h : f entry = none) :
    filterEntries f ((name, entry) :: rest) = filterEntries f rest := by
  simp only [filterEntries, List.filterMap_cons, h, Option.map_none]

/-- An entry is kept. -/
theorem filterEntries_cons_of_some {kept : β} (h : f entry = some kept) :
    filterEntries f ((name, entry) :: rest) = (name, kept) :: filterEntries f rest := by
  simp only [filterEntries, List.filterMap_cons, h, Option.map_some]

end FilterEntries

/-- Leaving entries out keeps the order of the keys. -/
theorem Sorted.filterEntries {β : Type} {known : Keyed α} (h : known.Sorted) (f : α → Option β) :
    (known.filterEntries f).Sorted := by
  refine List.pairwise_map.mpr ((List.pairwise_map.mp h).filterMap _ ?_)
  rintro ⟨first, entry⟩ ⟨second, other⟩ hlt kept hkept more hmore
  obtain ⟨_, -, rfl⟩ := Option.map_eq_some_iff.mp hkept
  obtain ⟨_, -, rfl⟩ := Option.map_eq_some_iff.mp hmore
  exact hlt

/-- What is kept of the entry of a key is found under the key. -/
theorem Sorted.find?_filterEntries {β : Type} {known : Keyed α} (h : known.Sorted)
    (f : α → Option β) (key : String) :
    (known.filterEntries f).find? key = (known.find? key).bind f := by
  induction known with
  | nil => rfl
  | cons first rest ih =>
    obtain ⟨name, entry⟩ := first
    obtain ⟨hlater, hrest⟩ := List.pairwise_cons.mp h
    have hothers := ih hrest
    by_cases hname : name = key
    · subst hname
      have hnone : find? rest name = none :=
        find?_eq_none fun hmem => lt_irrefl name (hlater name hmem)
      rw [hnone, Option.bind_none] at hothers
      rw [find?, if_pos rfl, Option.bind_some]
      cases hentry : f entry with
      | none => rw [filterEntries_cons_of_none hentry, hothers]
      | some kept => rw [filterEntries_cons_of_some hentry, find?, if_pos rfl]
    · rw [find?, if_neg hname]
      cases hentry : f entry with
      | none => rw [filterEntries_cons_of_none hentry, hothers]
      | some kept => rw [filterEntries_cons_of_some hentry, find?, if_neg hname, hothers]

/-- Lists in the order of their keys are the same when the same is found in them. -/
theorem Sorted.ext {first second : Keyed α} (hfirst : first.Sorted) (hsecond : second.Sorted)
    (h : ∀ key, find? first key = find? second key) : first = second := by
  have hmembers : ∀ member, member ∈ first ↔ member ∈ second := by
    rintro ⟨key, entry⟩
    rw [hfirst.mem_iff, hsecond.mem_iff, h key]
  have hperm : first.Perm second :=
    (List.perm_ext_iff_of_nodup hfirst.nodup hsecond.nodup).mpr hmembers
  exact hperm.eq_of_pairwise (fun _ _ _ _ hlt hgt => absurd hgt (lt_asymm hlt))
    (List.pairwise_map.mp hfirst) (List.pairwise_map.mp hsecond)

/-- Putting entries in after others is putting in both, merged with each other first. -/
theorem insertAll_insertAll {first second third : Keyed α} (hfirst : first.Sorted)
    (hsecond : second.Sorted) (hthird : third.Sorted) :
    insertAll (insertAll first second) third = insertAll first (insertAll second third) := by
  refine ((hfirst.insertAll second).insertAll third).ext (hfirst.insertAll _) fun key => ?_
  rw [find?_insertAll hthird, find?_insertAll hsecond, find?_insertAll (hsecond.insertAll third),
    find?_insertAll hthird, Option.or_assoc]

end ShapeLisp.Keyed
