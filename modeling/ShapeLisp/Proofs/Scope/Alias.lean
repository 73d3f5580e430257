import ShapeLisp.Proofs.Scope.Lookup

/-!
# Names that stand for names

A name can be bound to another name. The way from a name goes step by step to the name that each
name stands for. It ends at a name that is bound to something else or at a name that is not bound,
or it comes back to a name that it has passed and then it never ends. With a number of steps as a
limit there is nothing else that can happen.
-/

namespace ShapeLisp

variable [Regex.Engine]

namespace Store

/-- The name that a name stands for, when its latest binding in the nearest scope is a name. -/
def target? (store : Store) (scope : ScopeId) (name : String) : Option String :=
  match store.lookup scope name with
  | .ok ⟨.sym target, _⟩ => some target
  | _ => none

/-- The name that comes after so many steps, each from a name to the one it stands for. -/
def nameAfter? (store : Store) (scope : ScopeId) (name : String) : (steps : Nat) → Option String
  | 0 => some name
  | steps + 1 => (nameAfter? store scope name steps).bind (store.target? scope)

/-- The way from a name ends after so many steps at a name that is bound to a value, which is not
a name. -/
structure LeadsTo (store : Store) (scope : ScopeId) (name : String) (steps : Nat) (last : String)
    (value : Value) : Prop where
  /-- The steps come to the last name. -/
  reached : store.nameAfter? scope name steps = some last
  /-- The last name is bound to the value. -/
  found : ∃ options, store.lookup scope last = .ok ⟨value, options⟩
  /-- The value stands for itself. -/
  final : ∀ target, value ≠ .sym target

/-- The way from a name ends after so many steps at a name that is not bound. -/
structure LeadsNowhere (store : Store) (scope : ScopeId) (name : String) (steps : Nat)
    (last : String) : Prop where
  /-- The steps come to the last name. -/
  reached : store.nameAfter? scope name steps = some last
  /-- No scope binds the last name. -/
  unbound : store.Unbound scope last

/-- Where the way from a name has come within a number of steps. -/
inductive Way (store : Store) (scope : ScopeId) (name : String) (limit : Nat) : Prop where
  /-- It has ended at a value. -/
  | value {steps : Nat} {last : String} {value : Value} (hsteps : steps < limit)
      (h : store.LeadsTo scope name steps last value)
  /-- It has ended at a name that is not bound. -/
  | nowhere {steps : Nat} {last : String} (hsteps : steps < limit)
      (h : store.LeadsNowhere scope name steps last)
  /-- It goes on. -/
  | further {last : String} (h : store.nameAfter? scope name limit = some last)

/-- The way from a name does not end within a number of steps. -/
def GoesBeyond (store : Store) (scope : ScopeId) (name : String) (limit : Nat) : Prop :=
  ∀ steps last, steps < limit → ¬ store.LeadsNowhere scope name steps last ∧
    ∀ value, ¬ store.LeadsTo scope name steps last value

/-- Every name on the way from a name has a single binding in the nearest scope that binds it. -/
def Unambiguous (store : Store) (scope : ScopeId) (name : String) : Prop :=
  ∀ steps passed near, store.nameAfter? scope name steps = some passed →
    store.nearest? scope passed = some near →
      ∃ binding, (store.scope near).bindings passed = [binding]

/-- A scope and those around it are in the second store what they are in the first. -/
def SameAround (scope : ScopeId) (before after : Store) : Prop :=
  ∀ id ∈ before.chain scope, after.scope id = before.scope id

section Way

variable {store : Store} {scope : ScopeId} {name last target : String} {steps limit : Nat}

/-- A name stands for another one when its latest binding is that name. -/
theorem target?_eq_some_iff :
    store.target? scope name = some target ↔
      ∃ options, store.lookup scope name = .ok ⟨.sym target, options⟩ := by
  rw [target?]
  constructor
  · intro h
    split at h
    · next found options hfound =>
      obtain rfl := Option.some.inj h
      exact ⟨options, hfound⟩
    · cases h
  · rintro ⟨options, hfound⟩
    rw [hfound]

/-- What comes after one more step is what the name before stands for. -/
theorem nameAfter?_succ_eq_some (h : store.nameAfter? scope name (steps + 1) = some last) :
    ∃ passed, store.nameAfter? scope name steps = some passed ∧
      store.target? scope passed = some last :=
  Option.bind_eq_some_iff.mp h

/-- Before a name on the way there are names. -/
theorem isSome_nameAfter?_of_le (hle : steps ≤ limit)
    (h : (store.nameAfter? scope name limit).isSome) :
    (store.nameAfter? scope name steps).isSome := by
  induction hle with
  | refl => exact h
  | step _ ih =>
    obtain ⟨last, hlast⟩ := Option.isSome_iff_exists.mp h
    obtain ⟨passed, hpassed, -⟩ := nameAfter?_succ_eq_some hlast
    exact ih (by rw [hpassed, Option.isSome_some])

/-- A name from which a step leads on is bound. -/
theorem exists_lookup_of_nameAfter? (h : store.nameAfter? scope name (steps + 1) = some last) :
    ∃ binding, store.lookup scope name = .ok binding := by
  have hfirst : (store.nameAfter? scope name 1).isSome :=
    isSome_nameAfter?_of_le (Nat.le_add_left 1 steps) (by rw [h, Option.isSome_some])
  obtain ⟨target, htarget⟩ := Option.isSome_iff_exists.mp hfirst
  obtain ⟨options, hfound⟩ := target?_eq_some_iff.mp htarget
  exact ⟨_, hfound⟩

/-- A name from which the way comes to a bound name is bound. -/
theorem exists_lookup_of_reached (hlast : store.nameAfter? scope name steps = some last)
    {final : Binding} (hfinal : store.lookup scope last = .ok final) :
    ∃ binding, store.lookup scope name = .ok binding := by
  cases steps with
  | zero =>
    obtain rfl := Option.some.inj hlast
    exact ⟨final, hfinal⟩
  | succ steps => exact exists_lookup_of_nameAfter? hlast

/-- The way from a name ends within a number of steps or goes on after them. -/
theorem way (store : Store) (scope : ScopeId) (name : String) (limit : Nat) :
    store.Way scope name limit := by
  induction limit with
  | zero => exact .further rfl
  | succ limit ih =>
    cases ih with
    | value hsteps h => exact .value (Nat.lt_succ_of_lt hsteps) h
    | nowhere hsteps h => exact .nowhere (Nat.lt_succ_of_lt hsteps) h
    | @further last hlast =>
      cases hfound : store.lookup scope last with
      | error error =>
        exact .nowhere limit.lt_succ_self ⟨hlast, (lookup_eq_error_iff.mp hfound).1⟩
      | ok binding =>
        obtain ⟨value, options⟩ := binding
        by_cases hname : ∃ target, value = .sym target
        · obtain ⟨target, rfl⟩ := hname
          have htarget : store.target? scope last = some target :=
            target?_eq_some_iff.mpr ⟨options, hfound⟩
          have hnext : store.nameAfter? scope name (limit + 1) = some target := by
            rw [nameAfter?, hlast, Option.bind_some, htarget]
          exact .further hnext
        · exact .value limit.lt_succ_self
            ⟨hlast, ⟨options, hfound⟩, fun target hvalue => hname ⟨target, hvalue⟩⟩

/-- Nothing comes after a name that stands for no other. -/
theorem nameAfter?_eq_none_of_lt (hlast : store.nameAfter? scope name steps = some last)
    (hend : store.target? scope last = none) (hlt : steps < limit) :
    store.nameAfter? scope name limit = none := by
  rw [← Option.not_isSome_iff_eq_none]
  intro hfurther
  have hnext := isSome_nameAfter?_of_le (Nat.succ_le_of_lt hlt) hfurther
  rw [nameAfter?, hlast, Option.bind_some, hend] at hnext
  cases hnext

/-- A name that is bound to a value stands for no other. -/
theorem LeadsTo.target?_eq_none {value : Value}
    (h : store.LeadsTo scope name steps last value) : store.target? scope last = none := by
  obtain ⟨options, hfound⟩ := h.found
  rw [target?, hfound]
  split
  · next target _ hname =>
    exact absurd (Binding.mk.inj (Except.ok.inj hname)).1 (h.final target)
  · rfl

/-- A name that is not bound stands for no other. -/
theorem LeadsNowhere.target?_eq_none (h : store.LeadsNowhere scope name steps last) :
    store.target? scope last = none := by
  rw [target?, lookup_eq_error_iff.mpr ⟨h.unbound, rfl⟩]

/-- A way does not end within a number of steps when there is a name after them. -/
theorem goesBeyond_iff :
    store.GoesBeyond scope name limit ↔ ∃ last, store.nameAfter? scope name limit = some last := by
  constructor
  · intro h
    cases store.way scope name limit with
    | value hsteps hends => exact absurd hends ((h _ _ hsteps).2 _)
    | nowhere hsteps hends => exact absurd hends (h _ _ hsteps).1
    | further hlast => exact ⟨_, hlast⟩
  · rintro ⟨further, hfurther⟩ steps last hsteps
    constructor
    · intro hends
      rw [nameAfter?_eq_none_of_lt hends.reached hends.target?_eq_none hsteps] at hfurther
      cases hfurther
    · intro value hends
      rw [nameAfter?_eq_none_of_lt hends.reached hends.target?_eq_none hsteps] at hfurther
      cases hfurther

/-- A way that ends later at a value does not end before. -/
theorem LeadsTo.goesBeyond {value : Value} (h : store.LeadsTo scope name steps last value)
    (hlimit : limit ≤ steps) : store.GoesBeyond scope name limit :=
  goesBeyond_iff.mpr (Option.isSome_iff_exists.mp
    (isSome_nameAfter?_of_le hlimit (by rw [h.reached, Option.isSome_some])))

/-- A way that comes to a name again repeats what came after it. -/
theorem nameAfter?_add_of_again {later : Nat}
    (h : store.nameAfter? scope name steps = store.nameAfter? scope name later) (more : Nat) :
    store.nameAfter? scope name (steps + more) = store.nameAfter? scope name (later + more) := by
  induction more with
  | zero => exact h
  | succ more ih => rw [← Nat.add_assoc, ← Nat.add_assoc, nameAfter?, nameAfter?, ih]

/-- A way that comes to a name again never ends. -/
theorem goesBeyond_of_again {later : Nat} (hlater : steps < later)
    (hfirst : store.nameAfter? scope name steps = some last)
    (hagain : store.nameAfter? scope name later = some last) (limit : Nat) :
    store.GoesBeyond scope name limit := by
  rw [goesBeyond_iff, ← Option.isSome_iff_exists]
  induction limit using Nat.strongRecOn with
  | ind limit ih =>
    rcases Nat.le_total limit later with hle | hle
    · exact isSome_nameAfter?_of_le hle (by rw [hagain, Option.isSome_some])
    · -- After the second visit the way is where it was after the first.
      obtain ⟨more, rfl⟩ := Nat.exists_eq_add_of_le hle
      rw [← nameAfter?_add_of_again (hfirst.trans hagain.symm)]
      exact ih (steps + more) (Nat.add_lt_add_right hlater more)

end Way

section SameAround

variable {scope : ScopeId} {before after : Store} (h : SameAround scope before after)

include h

/-- The scopes around are the same. -/
theorem SameAround.chain_eq : after.chain scope = before.chain scope := by
  rw [chain, chain, h scope List.mem_cons_self]

/-- Names have the same candidates. -/
theorem SameAround.candidates?_eq (name : String) :
    after.candidates? name (before.chain scope) = before.candidates? name (before.chain scope) :=
  candidates?_congr fun id hid => by rw [h id hid]

/-- Lookups find the same. -/
theorem SameAround.lookup_eq (name : String) :
    after.lookup scope name = before.lookup scope name := by
  rw [lookup, lookup, h.chain_eq, h.candidates?_eq]

/-- The same names are not bound. -/
theorem SameAround.unbound {name : String} (hname : before.Unbound scope name) :
    after.Unbound scope name := by
  have hlookup := h.lookup_eq name
  rw [lookup_eq_error_iff.mpr ⟨hname, rfl⟩] at hlookup
  exact (lookup_eq_error_iff.mp hlookup).1

/-- Calls choose the same. -/
theorem SameAround.dispatch_eq (name : String) (args : List Value) :
    after.dispatch scope name args = before.dispatch scope name args := by
  rw [dispatch, dispatch, h.chain_eq, h.candidates?_eq]

end SameAround

/-- Arguments have no choice where a name has a single binding. -/
theorem dispatch_of_single {store : Store} {scope : ScopeId} {name : String} {binding : Binding}
    (hfound : store.lookup scope name = .ok binding)
    (hsingle : ∀ near, store.nearest? scope name = some near →
      ∃ only, (store.scope near).bindings name = [only]) (args : List Value) :
    ∃ how, store.dispatch scope name args = .ok (binding, how) := by
  rw [lookup_eq_answer, answer_eq_ok] at hfound
  obtain ⟨near, hnear, hlast⟩ := Option.bind_eq_some_iff.mp hfound
  obtain ⟨only, hbindings⟩ := hsingle near hnear
  rw [hbindings, List.getLast?_singleton] at hlast
  obtain rfl := Option.some.inj hlast
  rw [dispatch_eq_answer, hnear, Option.bind_some, hbindings]
  have hchosen : (choose args [only]).map Prod.fst = some only := by
    rw [map_fst_choose, chosen, List.find?_singleton, List.getLast?_singleton]
    split <;> rfl
  obtain ⟨⟨chosen, how⟩, hchoice, rfl⟩ := Option.map_eq_some_iff.mp hchosen
  exact ⟨how, answer_eq_ok.mpr hchoice⟩

end Store

end ShapeLisp
