import ShapeLisp.Host.Standard
import ShapeLisp.Proofs.Eval.LogicRules

/-!
# Names in values and in host functions

A name occurs in a value when it is one of its symbols, at any depth, in the parameters and the body
of a closure as well as in lists and quotations. Texts are no names: a named group of a regular
expression and the path of a pointer mention nothing.

A host function is not concerned with a name that its arguments do not mention when its answer does
not depend on what the name is bound to and does not mention it either. The standard functions are
of this kind for every name. They answer with data, and all but one never look a name up; selection
looks up the symbols among its arguments.
-/

namespace ShapeLisp

variable [Regex.Engine]

/-! ### Values -/

namespace Value

mutual

/-- Whether a name occurs as a symbol in a value. -/
def mentions (name : String) : Value → Bool
  | .sym other => other == name
  | .list items => mentionsAny name items
  | .quoted inner => mentions name inner
  | .closure params _ body _ => mentionsAny name params || mentions name body
  | _ => false

/-- Whether a name occurs as a symbol in one of several values. -/
def mentionsAny (name : String) : List Value → Bool
  | [] => false
  | value :: rest => mentions name value || mentionsAny name rest

end

/-- The name does not occur as a symbol in the value. -/
def Avoids (name : String) (value : Value) : Prop :=
  value.mentions name = false

variable {name : String}

/-- Several values mention no name that none of them mentions. -/
theorem mentionsAny_eq_false_iff {values : List Value} :
    mentionsAny name values = false ↔ ∀ value ∈ values, value.Avoids name := by
  induction values with
  | nil => simp [mentionsAny]
  | cons value rest ih =>
    rw [mentionsAny, Bool.or_eq_false_iff, ih, List.forall_mem_cons, Avoids]

/-- A symbol avoids the other names. -/
theorem avoids_sym {other : String} : (Value.sym other).Avoids name ↔ other ≠ name := by
  rw [Avoids, mentions, beq_eq_false_iff_ne]

/-- A list avoids a name when its items do. -/
theorem avoids_list {items : List Value} :
    (Value.list items).Avoids name ↔ ∀ item ∈ items, item.Avoids name := by
  rw [Avoids, mentions, mentionsAny_eq_false_iff]

/-- A quotation avoids a name when what is quoted does. -/
theorem avoids_quoted {inner : Value} : (Value.quoted inner).Avoids name ↔ inner.Avoids name := by
  rw [Avoids, mentions, Avoids]

/-- A closure avoids a name when its parameters and its body do. -/
theorem avoids_closure {params : List Value} {rest : Option String} {body : Value}
    {scope : ScopeId} : (Value.closure params rest body scope).Avoids name ↔
      (∀ param ∈ params, param.Avoids name) ∧ body.Avoids name := by
  rw [Avoids, mentions, Bool.or_eq_false_iff, mentionsAny_eq_false_iff, Avoids]

/-- Data mentions no name. -/
theorem IsData.avoids {value : Value} (h : value.IsData) : value.Avoids name := by
  induction h with
  | list _ ih => exact avoids_list.mpr ih
  | _ => rfl

end Value

/-! ### Host functions -/

/-- The host function is not concerned with a name that its arguments do not mention, where the name
occurs in no value that is bound to another name. -/
structure Operation.Ignores (name : String) (operation : Operation) : Prop where
  /-- The answer does not depend on what the name is bound to. -/
  same : ∀ (first second : String → Except Error Value) (args : List Value),
    (∀ other, other ≠ name → first other = second other) →
    (∀ other, other ≠ name → ∀ found, first other = .ok found → found.Avoids name) →
    (∀ arg ∈ args, arg.Avoids name) → operation first args = operation second args
  /-- The answer does not mention the name. -/
  avoids : ∀ (lookup : String → Except Error Value) (args : List Value) (value : Value),
    (∀ other, other ≠ name → ∀ found, lookup other = .ok found → found.Avoids name) →
    (∀ arg ∈ args, arg.Avoids name) → (operation lookup args).result = .ok value →
    value.Avoids name

/-- The functions of a host are not concerned with a name that their arguments do not mention. -/
def Host.Ignores (name : String) (host : Host) : Prop :=
  ∀ registration ∈ host, registration.operation.Ignores name

/-- A function that is found in such a host is not concerned with the name either. -/
theorem Host.Ignores.operation? {name id : String} {host : Host} {operation : Operation}
    (h : host.Ignores name) (hfound : host.operation? id = some operation) :
    operation.Ignores name := by
  obtain ⟨registration, hmem, rfl⟩ := Host.mem_of_operation? hfound
  exact h registration hmem

/-- The reply is data when it is a value. -/
def Reply.GivesData (reply : Reply) : Prop :=
  ∀ value, reply.result = .ok value → value.IsData

/-- A reply with data. -/
theorem Reply.givesData_value {value : Value} (h : value.IsData) :
    (Reply.value value).GivesData := by
  intro other hother
  obtain rfl := Except.ok.inj hother
  exact h

/-- A reply with an error. -/
theorem Reply.givesData_fail (error : Error) : (Reply.fail error).GivesData := by
  intro value hvalue
  cases hvalue

/-- Whatever arguments of its kinds a function is given, its result meets a condition. -/
def Typed.Always {result : Type} (P : result → Prop) :
    (kinds : List ParamKind) → Typed kinds result → Prop
  | [], function => P function
  | _ :: kinds, function => ∀ argument, Typed.Always P kinds (function argument)

namespace Operation

/-- A host function that answers with data only and never looks a name up. -/
structure IsPlain (operation : Operation) : Prop where
  /-- It does not look names up. -/
  unaided : ∀ (first second : String → Except Error Value) (args : List Value),
    operation first args = operation second args
  /-- It answers with data. -/
  data : ∀ (lookup : String → Except Error Value) (args : List Value),
    (operation lookup args).GivesData

/-- A plain function is concerned with no name. -/
theorem IsPlain.ignores {operation : Operation} (h : operation.IsPlain) (name : String) :
    operation.Ignores name where
  same first second args _ _ _ := h.unaided first second args
  avoids lookup args value _ _ hvalue := (h.data lookup args value hvalue).avoids

/-- What a function is fed does not matter to what holds of all its results. -/
theorem always_feed {result : Type} {P : result → Prop} {kinds : List ParamKind}
    {function : Typed kinds result} (h : Typed.Always P kinds function) {args rest : List Value}
    {fed : result} (hfed : feed kinds function args = .ok (fed, rest)) : P fed := by
  induction kinds generalizing args with
  | nil =>
    obtain ⟨rfl, -⟩ := Prod.mk.inj (Except.ok.inj hfed)
    exact h
  | cons kind kinds ih =>
    cases args with
    | nil => cases hfed
    | cons value args =>
      rw [feed] at hfed
      split at hfed
      · cases hfed
      · next argument _ => exact ih (h argument) hfed

/-- A function on the arguments as they are. -/
theorem isPlain_plain {function : List Value → Reply} (h : ∀ args, (function args).GivesData) :
    (plain function).IsPlain where
  unaided _ _ _ := rfl
  data _ args := h args

/-- A function with typed parameters. -/
theorem isPlain_typed {kinds : List ParamKind} {function : Typed kinds Reply}
    (h : Typed.Always Reply.GivesData kinds function) : (typed kinds function).IsPlain where
  unaided _ _ _ := rfl
  data _ args := by
    unfold typed
    split
    · exact Reply.givesData_fail _
    · split
      · exact Reply.givesData_fail _
      · next reply rest hfed => exact always_feed h hfed

/-- A check of the number of arguments before a plain function. -/
theorem IsPlain.checked {operation : Operation} (h : operation.IsPlain) (arity : Arity) :
    (checked arity operation).IsPlain where
  unaided first second args := by
    unfold Operation.checked
    split
    · rfl
    · exact h.unaided first second args
  data lookup args := by
    unfold Operation.checked
    split
    · exact Reply.givesData_fail _
    · exact h.data lookup args

/-- A function with typed parameters and a run of further arguments. -/
theorem isPlain_variadic {arity : Arity} {kinds : List ParamKind} {items : ItemKind}
    {function : Typed kinds (List items.Carrier → Reply)}
    (h : Typed.Always (fun function => ∀ run, (function run).GivesData) kinds function) :
    (variadic arity kinds items function).IsPlain := by
  refine IsPlain.checked (IsPlain.checked ⟨fun _ _ _ => rfl, fun _ args => ?_⟩ _) arity
  split
  · exact Reply.givesData_fail _
  · next function rest hfed =>
    split
    · exact Reply.givesData_fail _
    · next run _ => exact always_feed h hfed run

/-- A check of the number of arguments is concerned with no name. -/
theorem Ignores.checked {name : String} {operation : Operation} (h : operation.Ignores name)
    (arity : Arity) : (checked arity operation).Ignores name where
  same first second args hsame hfound hargs := by
    unfold Operation.checked
    split
    · rfl
    · exact h.same first second args hsame hfound hargs
  avoids lookup args value hfound hargs hvalue := by
    unfold Operation.checked at hvalue
    split at hvalue
    · cases hvalue
    · exact h.avoids lookup args value hfound hargs hvalue

end Operation

/-! ### The standard functions -/

namespace Standard

/-- A number is data. -/
theorem givesData_number (x : Float) : (number x).GivesData :=
  Reply.givesData_value (.num x)

/-- A truth value is data. -/
theorem givesData_truth (value : Bool) : (truth value).GivesData :=
  Reply.givesData_value (.bool value)

/-- A number or an error. -/
theorem givesData_numberResult (result : Except Error Float) :
    (numberResult result).GivesData := by
  cases result with
  | ok x => exact givesData_number x
  | error error => exact Reply.givesData_fail error

/-- A sum of numbers is a number. -/
theorem givesData_addNumbers (sum : Float) (args : List Value) :
    (Reply.ofResult (addNumbers sum args)).GivesData := by
  fun_induction addNumbers sum args with
  | case1 sum => exact Reply.givesData_value (.num sum)
  | case2 sum x rest ih => exact ih
  | case3 sum other rest _ => exact Reply.givesData_fail _

/-- A sum is a text or a number. -/
theorem givesData_add (args : List Value) : (add args).GivesData := by
  unfold add
  split
  · exact Reply.givesData_value (.str _)
  · exact givesData_addNumbers 0.0 args

/-- Waiting returns nil. -/
theorem givesData_wait (args : List Value) : (wait args).GivesData := by
  unfold wait
  split
  · split
    · split
      · exact Reply.givesData_fail _
      · exact Reply.givesData_value .nil
    · exact Reply.givesData_fail _
  · exact Reply.givesData_fail _
  · exact Reply.givesData_fail _

/-- An argument of a selection that does not mention a name stands for the same whatever the name is
bound to. -/
theorem resolve_eq_of_avoids {name : String} {first second : String → Except Error Value}
    (hsame : ∀ other, other ≠ name → first other = second other) {arg : Value}
    (harg : arg.Avoids name) : resolve first arg = resolve second arg := by
  cases arg with
  | sym other => exact hsame other (Value.avoids_sym.mp harg)
  | _ => rfl

/-- A selection returns data. -/
theorem isData_selectFrom {lookup : String → Except Error Value} {pointer value found : Value}
    (h : selectFrom lookup pointer value = .ok found) : found.IsData := by
  have hnavigated : ∀ path value, ((Value.navigate? path value).getD .nil).IsData :=
    fun path value => Value.isData_getD_nil fun _ hfound => Value.isData_navigate? hfound
  unfold selectFrom at h
  cases hpointer : resolve lookup pointer with
  | error error =>
    rw [hpointer] at h
    cases h
  | ok pointed =>
    rw [hpointer] at h
    cases hvalue : resolve lookup value with
    | error error =>
      rw [hvalue] at h
      cases pointed <;> cases h
    | ok selected =>
      rw [hvalue] at h
      cases pointed with
      | pointer path | str path =>
        cases selected with
        | json document | list items =>
          obtain rfl := Except.ok.inj h
          exact hnavigated _ _
        | _ => cases h
      | _ => cases h

/-- A selection is not concerned with a name that its arguments do not mention. -/
theorem ignores_select (name : String) : Operation.Ignores name select where
  same first second args hsame _ hargs := by
    unfold select
    split
    · next pointer value rest =>
      have hpointer := resolve_eq_of_avoids hsame (hargs pointer (by simp))
      have hvalue := resolve_eq_of_avoids hsame (hargs value (by simp))
      rw [selectFrom, hpointer, hvalue, ← selectFrom]
    · rfl
  avoids lookup args value _ _ hvalue := by
    unfold select at hvalue
    split at hvalue
    · exact (isData_selectFrom hvalue).avoids
    · cases hvalue

/-- A standard function is plain, or it is the selection. -/
theorem isPlain_or_select : ∀ registration ∈ host,
    registration.operation.IsPlain ∨ registration.operation = .checked (.exact 2) select := by
  have hplain : ∀ {id : String} {arity : Arity} {operation : Operation}, operation.IsPlain →
      (function id arity operation).operation.IsPlain ∨
        (function id arity operation).operation = .checked (.exact 2) select :=
    fun h => .inl (h.checked _)
  simp only [host, List.forall_mem_cons, List.not_mem_nil, false_implies, implies_true, and_true]
  refine ⟨hplain ?_, hplain ?_, hplain ?_, hplain ?_, hplain ?_, hplain ?_, hplain ?_, hplain ?_,
    hplain ?_, hplain ?_, hplain ?_, hplain ?_, hplain ?_, hplain ?_, .inr rfl⟩
  · exact Operation.isPlain_variadic givesData_add
  · exact Operation.isPlain_variadic fun _ => givesData_number _
  · exact Operation.isPlain_variadic fun _ => givesData_number _
  · exact Operation.isPlain_variadic fun _ => givesData_numberResult _
  · exact Operation.isPlain_typed fun _ => givesData_truth _
  · exact Operation.isPlain_typed fun _ _ => givesData_truth _
  · exact Operation.isPlain_typed fun _ => givesData_truth _
  · exact Operation.isPlain_typed fun _ => givesData_number _
  · exact Operation.isPlain_plain givesData_wait
  · exact Operation.isPlain_variadic fun _ => Reply.givesData_value .nil
  · exact Operation.isPlain_typed fun _ => givesData_numberResult _
  · exact Operation.isPlain_typed fun _ => givesData_numberResult _
  · exact Operation.isPlain_typed fun _ => givesData_truth _
  · exact Operation.isPlain_variadic fun _ => Reply.givesData_value (.str _)

/-- The standard functions are concerned with no name that their arguments do not mention. -/
theorem host_ignores (name : String) : Host.Ignores name host := by
  intro registration hmem
  rcases isPlain_or_select registration hmem with hplain | hselect
  · exact hplain.ignores name
  · rw [hselect]
    exact (ignores_select name).checked _

/-- The standard functions answer with data. -/
theorem givesData_host {registration : Registration} (hmem : registration ∈ host)
    (lookup : String → Except Error Value) (args : List Value) :
    (registration.operation lookup args).GivesData := by
  rcases isPlain_or_select registration hmem with hplain | hselect
  · exact hplain.data lookup args
  · rw [hselect, Operation.checked]
    split
    · exact Reply.givesData_fail _
    · unfold select
      split
      · exact fun value hvalue => isData_selectFrom hvalue
      · exact Reply.givesData_fail _

end Standard

end ShapeLisp
