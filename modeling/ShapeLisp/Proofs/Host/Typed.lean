import ShapeLisp.Host.Operation

/-!
# Calls of typed functions

Whether a typed function is called, and with what, does not depend on the function: the arguments
are converted before. They are exactly right when they are the values of items of the kinds that the
function takes. Any other arguments are refused, for their number or for the leftmost of them that
does not fit, and the function is not called. In a run of items every item was found to fit before
the function looks at it.
-/

namespace ShapeLisp

variable [Regex.Engine]

/-- An outcome is known: which result it is when there is one, and which error otherwise. -/
structure Decides {α : Type} (outcome : Except Error α) (result : α → Prop)
    (failure : Error → Prop) : Prop where
  /-- When there is a result. -/
  ok_iff : ∀ a, outcome = .ok a ↔ result a
  /-- When there is an error. -/
  error_iff : ∀ error, outcome = .error error ↔ failure error

/-- An outcome is known when each case of it is, and one of the cases holds. -/
theorem Decides.of_cases {α : Type} {outcome : Except Error α} {result : α → Prop}
    {failure : Error → Prop} (hresult : ∀ a, result a → outcome = .ok a)
    (hfailure : ∀ error, failure error → outcome = .error error)
    (hcases : (∃ a, result a) ∨ ∃ error, failure error) : Decides outcome result failure := by
  rcases hcases with ⟨a, ha⟩ | ⟨error, herror⟩
  · have houtcome := hresult a ha
    refine ⟨fun b => ⟨fun hb => ?_, hresult b⟩, fun error => ⟨fun herror => ?_, hfailure error⟩⟩
    · obtain rfl := Except.ok.inj (houtcome.symm.trans hb)
      exact ha
    · cases houtcome.symm.trans herror
  · have houtcome := hfailure error herror
    refine ⟨fun a => ⟨fun ha => ?_, hresult a⟩, fun other => ⟨fun hother => ?_, hfailure other⟩⟩
    · cases houtcome.symm.trans ha
    · obtain rfl := Except.error.inj (houtcome.symm.trans hother)
      exact herror

/-- A value is of a form, or it is none of that form. -/
theorem Value.has_form_or_not {α : Type} (value : Value) (form : α → Value) :
    (∃ a, value = form a) ∨ ∀ a, value ≠ form a :=
  (Classical.em (∃ a, value = form a)).imp_right not_exists.mp

/-! ### Runs of items -/

namespace ItemKind

/-- The argument that is converted to an item. -/
def toValue : (kind : ItemKind) → kind.Carrier → Value
  | .any, value => value
  | .number, x => .num x
  | .string, text => .str text

/-- An item does not fit, with the error. -/
inductive Refuses : ItemKind → Value → Error → Prop
  /-- It is not a number. -/
  | number {value : Value} : (∀ x, value ≠ .num x) →
      Refuses .number value (.of (.expected "number" value))
  /-- It is not a string. -/
  | string {value : Value} : (∀ text, value ≠ .str text) →
      Refuses .string value (.of (.expected "string" value))

/-- The leftmost item of a run that does not fit is refused with the error. -/
def RefusesRun (kind : ItemKind) (run : List Value) (error : Error) : Prop :=
  ∃ (before : List kind.Carrier) (rejected : Value) (after : List Value),
    run = before.map kind.toValue ++ rejected :: after ∧ kind.Refuses rejected error

/-- An item is viewed as what it stands for. -/
theorem view_toValue (kind : ItemKind) (item : kind.Carrier) :
    kind.view (kind.toValue item) = item := by
  cases kind <;> rfl

/-- A run of accepted items passes. -/
theorem checkEach_eq_ok {expected : String} {accepts : Value → Bool} {run : List Value}
    (h : ∀ value ∈ run, accepts value = true) : checkEach expected accepts run = .ok () := by
  have hnone : run.find? (fun value => !accepts value) = none :=
    List.find?_eq_none.mpr fun value hmem => by simp [h value hmem]
  rw [checkEach, hnone]

/-- The first item that is not accepted is the error. -/
theorem checkEach_eq_error {expected : String} {accepts : Value → Bool} {before : List Value}
    {rejected : Value} (h : ∀ value ∈ before, accepts value = true)
    (hrejected : accepts rejected = false) (after : List Value) :
    checkEach expected accepts (before ++ rejected :: after) =
      .error (.of (.expected expected rejected)) := by
  have hsome : (before ++ rejected :: after).find? (fun value => !accepts value) = some rejected :=
    List.find?_eq_some_iff_append.mpr ⟨by simp [hrejected], before, after, rfl,
      fun value hmem => by simp [h value hmem]⟩
  rw [checkEach, hsome]

/-- A run of items that fit passes. -/
theorem check_map_toValue (kind : ItemKind) (items : List kind.Carrier) :
    kind.check (items.map kind.toValue) = .ok () := by
  cases kind with
  | any => rfl
  | number => exact checkEach_eq_ok (by simp [toValue])
  | string => exact checkEach_eq_ok (by simp [toValue])

/-- A run with an item that does not fit is refused. -/
theorem check_of_refusesRun {kind : ItemKind} {run : List Value} {error : Error}
    (h : kind.RefusesRun run error) : kind.check run = .error error := by
  obtain ⟨before, rejected, after, rfl, hrefused⟩ := h
  cases hrefused with
  | number hother =>
    refine checkEach_eq_error (by simp [toValue]) ?_ after
    cases rejected <;> first | rfl | exact absurd rfl (hother _)
  | string hother =>
    refine checkEach_eq_error (by simp [toValue]) ?_ after
    cases rejected <;> first | rfl | exact absurd rfl (hother _)

/-- An item fits, or it is refused. -/
theorem fits_or_refuses (kind : ItemKind) (value : Value) :
    (∃ item, value = kind.toValue item) ∨ ∃ error, kind.Refuses value error := by
  cases kind with
  | any => exact .inl ⟨value, rfl⟩
  | number => exact (value.has_form_or_not .num).imp_right fun h => ⟨_, .number h⟩
  | string => exact (value.has_form_or_not .str).imp_right fun h => ⟨_, .string h⟩

/-- All items of a run fit, or the leftmost that does not is refused. -/
theorem fits_or_refusesRun (kind : ItemKind) (run : List Value) :
    (∃ items : List kind.Carrier, run = items.map kind.toValue) ∨
      ∃ error, kind.RefusesRun run error := by
  induction run with
  | nil => exact .inl ⟨[], rfl⟩
  | cons value rest ih =>
    rcases kind.fits_or_refuses value with ⟨item, rfl⟩ | ⟨error, hrefused⟩
    · rcases ih with ⟨items, rfl⟩ | ⟨error, before, rejected, after, rfl, hrefused⟩
      · exact .inl ⟨item :: items, rfl⟩
      · exact .inr ⟨error, item :: before, rejected, after, rfl, hrefused⟩
    · exact .inr ⟨error, [], value, rest, rfl, hrefused⟩

/-- A run is converted to the items it stands for, or refused for the leftmost that does not fit. -/
theorem decides_convertAll (kind : ItemKind) (run : List Value) :
    Decides (kind.convertAll run) (fun items => run = items.map kind.toValue)
      (kind.RefusesRun run) := by
  refine .of_cases ?_ (fun error h => ?_) (kind.fits_or_refusesRun run)
  · rintro items rfl
    simp only [convertAll, check_map_toValue, List.map_map, Except.ok.injEq]
    exact (List.map_congr_left fun item _ => kind.view_toValue item).trans (List.map_id items)
  · simp only [convertAll, check_of_refusesRun h]

/-- Every item of a run that passed is viewed as what it stands for; the values for items that do
not fit are never seen. -/
theorem toValue_view_of_check {kind : ItemKind} {run : List Value} (h : kind.check run = .ok ())
    {value : Value} (hmem : value ∈ run) : kind.toValue (kind.view value) = value := by
  rcases kind.fits_or_refusesRun run with ⟨items, rfl⟩ | ⟨error, hrefused⟩
  · obtain ⟨item, -, rfl⟩ := List.mem_map.mp hmem
    rw [view_toValue]
  · cases h.symm.trans (check_of_refusesRun hrefused)

end ItemKind

/-! ### Arguments -/

namespace ParamKind

/-- The argument that is converted to what a parameter takes. -/
def toValue : (kind : ParamKind) → kind.Carrier → Value
  | .number, x => .num x
  | .boolean, flag => .bool flag
  | .string, text => .str text
  | .value, argument => argument
  | .items kind, run => .list (run.map kind.toValue)

/-- An argument does not fit, with the error. -/
inductive Refuses : ParamKind → Value → Error → Prop
  /-- It is not a number. -/
  | number {value : Value} : (∀ x, value ≠ .num x) →
      Refuses .number value (.of (.expected "number" value))
  /-- It is not a truth value. -/
  | boolean {value : Value} : (∀ flag, value ≠ .bool flag) →
      Refuses .boolean value (.of (.expected "boolean" value))
  /-- It is not a string. -/
  | string {value : Value} : (∀ text, value ≠ .str text) →
      Refuses .string value (.of (.expected "string" value))
  /-- It is not a list. -/
  | list {kind : ItemKind} {value : Value} : (∀ run, value ≠ .list run) →
      Refuses (.items kind) value (.of (.expected "list" value))
  /-- It is a list with an item that does not fit. -/
  | item {kind : ItemKind} {run : List Value} {error : Error} : kind.RefusesRun run error →
      Refuses (.items kind) (.list run) error

/-- An argument that fits is converted. -/
theorem convert_toValue (kind : ParamKind) (argument : kind.Carrier) :
    kind.convert (kind.toValue argument) = .ok argument := by
  cases kind with
  | items kind => exact ((kind.decides_convertAll _).ok_iff argument).mpr rfl
  | _ => rfl

/-- An argument that does not fit is refused. -/
theorem convert_of_refuses {kind : ParamKind} {value : Value} {error : Error}
    (h : kind.Refuses value error) : kind.convert value = .error error := by
  cases h with
  | item hrefused => exact ((ItemKind.decides_convertAll _ _).error_iff error).mpr hrefused
  | number hother | boolean hother | string hother | list hother =>
    cases value <;> first | rfl | exact absurd rfl (hother _)

/-- An argument fits, or it is refused. -/
theorem fits_or_refuses (kind : ParamKind) (value : Value) :
    (∃ argument, value = kind.toValue argument) ∨ ∃ error, kind.Refuses value error := by
  cases kind with
  | number => exact (value.has_form_or_not .num).imp_right fun h => ⟨_, .number h⟩
  | boolean => exact (value.has_form_or_not .bool).imp_right fun h => ⟨_, .boolean h⟩
  | string => exact (value.has_form_or_not .str).imp_right fun h => ⟨_, .string h⟩
  | value => exact .inl ⟨value, rfl⟩
  | items kind =>
    rcases value.has_form_or_not .list with ⟨run, rfl⟩ | h
    · rcases kind.fits_or_refusesRun run with ⟨items, rfl⟩ | ⟨error, hrefused⟩
      · exact .inl ⟨items, rfl⟩
      · exact .inr ⟨error, .item hrefused⟩
    · exact .inr ⟨_, .list h⟩

end ParamKind

/-- What parameters of the kinds take. -/
def Arguments : List ParamKind → Type
  | [] => Unit
  | kind :: kinds => kind.Carrier × Arguments kinds

namespace Arguments

/-- The values that are converted to arguments of the kinds. -/
def toValues : {kinds : List ParamKind} → Arguments kinds → List Value
  | [], _ => []
  | kind :: _, (argument, others) => kind.toValue argument :: others.toValues

/-- There is one value for each parameter. -/
theorem length_toValues {kinds : List ParamKind} (arguments : Arguments kinds) :
    arguments.toValues.length = kinds.length := by
  induction kinds with
  | nil => rfl
  | cons kind kinds ih => exact congrArg Nat.succ (ih arguments.2)

/-- The leftmost argument that does not fit its parameter is refused with the error. -/
inductive Refuses : List ParamKind → List Value → Error → Prop
  /-- It is the first. -/
  | head {kind : ParamKind} {kinds : List ParamKind} {value : Value} {rest : List Value}
      {error : Error} : kind.Refuses value error → Refuses (kind :: kinds) (value :: rest) error
  /-- The first fits. -/
  | tail {kind : ParamKind} {kinds : List ParamKind} {rest : List Value} {error : Error}
      (argument : kind.Carrier) : Refuses kinds rest error →
      Refuses (kind :: kinds) (kind.toValue argument :: rest) error

/-- Converts as many values as there are parameters; the others are returned. -/
def take : (kinds : List ParamKind) → List Value → Except Error (Arguments kinds × List Value)
  | [], rest => .ok ((), rest)
  | _ :: _, [] => .error ((Arity.atLeast 1).error 0)
  | kind :: kinds, value :: rest => do
    let argument ← kind.convert value
    let (others, rest) ← take kinds rest
    return ((argument, others), rest)

/-- Values of arguments are converted to them. -/
theorem take_toValues {kinds : List ParamKind} (arguments : Arguments kinds)
    (rest : List Value) : take kinds (arguments.toValues ++ rest) = .ok (arguments, rest) := by
  induction kinds with
  | nil => rfl
  | cons kind kinds ih =>
    obtain ⟨argument, others⟩ := arguments
    simp only [toValues, List.cons_append, take, kind.convert_toValue, ih others]
    rfl

/-- Values that do not fit are refused. -/
theorem take_of_refuses {kinds : List ParamKind} {args : List Value} {error : Error}
    (h : Refuses kinds args error) : take kinds args = .error error := by
  induction h with
  | head hrefused =>
    simp only [take, ParamKind.convert_of_refuses hrefused]
    rfl
  | tail argument _ ih =>
    simp only [take, ParamKind.convert_toValue, ih]
    rfl

/-- Values for all parameters fit, or the leftmost that does not is refused. -/
theorem fits_or_refuses {kinds : List ParamKind} {args : List Value}
    (h : kinds.length ≤ args.length) :
    (∃ (arguments : Arguments kinds) (rest : List Value), args = arguments.toValues ++ rest) ∨
      ∃ error, Refuses kinds args error := by
  induction kinds generalizing args with
  | nil => exact .inl ⟨(), args, rfl⟩
  | cons kind kinds ih =>
    obtain ⟨value, args, rfl⟩ := List.exists_cons_of_length_pos (Nat.lt_of_lt_of_le (by simp) h)
    rcases kind.fits_or_refuses value with ⟨argument, rfl⟩ | ⟨error, hrefused⟩
    · rcases ih (Nat.le_of_succ_le_succ h) with ⟨others, rest, rfl⟩ | ⟨error, hrefused⟩
      · exact .inl ⟨(argument, others), rest, rfl⟩
      · exact .inr ⟨error, .tail argument hrefused⟩
    · exact .inr ⟨error, .head hrefused⟩

end Arguments

/-! ### Calls -/

/-- Passes arguments to a function. -/
def Typed.apply {result : Type} : (kinds : List ParamKind) → Typed kinds result →
    Arguments kinds → result
  | [], function, _ => function
  | _ :: kinds, function, (argument, others) => Typed.apply kinds (function argument) others

/-- The reply to a call, or the error when nothing is called. -/
def Reply.ofCall {α : Type} (call : α → Reply) : Except Error α → Reply
  | .ok arguments => call arguments
  | .error error => .fail error

namespace Operation

/-- What a function with typed parameters is called with. -/
def received (kinds : List ParamKind) (args : List Value) : Except Error (Arguments kinds) := do
  (Arity.exact kinds.length).check args.length
  let (arguments, _) ← Arguments.take kinds args
  return arguments

/-- What a function with typed parameters and a run of further arguments is called with. -/
def receivedWithRun (arity : Arity) (kinds : List ParamKind) (items : ItemKind)
    (args : List Value) : Except Error (Arguments kinds × List items.Carrier) := do
  arity.check args.length
  (Arity.atLeast kinds.length).check args.length
  let (arguments, rest) ← Arguments.take kinds args
  let run ← items.convertAll rest
  return (arguments, run)

/-- The arguments that a function is fed do not depend on the function. -/
theorem feed_eq {result : Type} (kinds : List ParamKind) (function : Typed kinds result)
    (args : List Value) : feed kinds function args =
      (Arguments.take kinds args).map fun (arguments, rest) =>
        (Typed.apply kinds function arguments, rest) := by
  induction kinds generalizing args with
  | nil => rfl
  | cons kind kinds ih =>
    cases args with
    | nil => rfl
    | cons value args =>
      rw [feed, Arguments.take]
      cases kind.convert value with
      | error error => rfl
      | ok argument =>
        dsimp only
        rw [ih]
        cases Arguments.take kinds args <;> rfl

/-- A function with typed parameters is called with what it receives. -/
theorem typed_eq (kinds : List ParamKind) (function : Typed kinds Reply)
    (lookup : String → Except Error Value) (args : List Value) :
    typed kinds function lookup args =
      .ofCall (Typed.apply kinds function) (received kinds args) := by
  rw [typed, received, feed_eq]
  cases (Arity.exact kinds.length).check args.length with
  | error error => rfl
  | ok _ => cases Arguments.take kinds args <;> rfl

/-- A function with a run of further arguments is called with what it receives. -/
theorem variadic_eq (arity : Arity) (kinds : List ParamKind) (items : ItemKind)
    (function : Typed kinds (List items.Carrier → Reply))
    (lookup : String → Except Error Value) (args : List Value) :
    variadic arity kinds items function lookup args =
      .ofCall (fun (arguments, run) => Typed.apply kinds function arguments run)
        (receivedWithRun arity kinds items args) := by
  rw [variadic, checked, checked, receivedWithRun, feed_eq]
  cases arity.check args.length with
  | error error => rfl
  | ok _ =>
    cases (Arity.atLeast kinds.length).check args.length with
    | error error => rfl
    | ok _ =>
      cases Arguments.take kinds args with
      | error error => rfl
      | ok taken =>
        dsimp only [Except.map]
        cases hrun : items.convertAll taken.2 <;> simp only [hrun, bind, Except.bind] <;> rfl

/-- A function with typed parameters is not called, with the error. -/
inductive Refuses (kinds : List ParamKind) (args : List Value) : Error → Prop
  /-- There is not one argument for each parameter. -/
  | count : args.length ≠ kinds.length →
      Refuses kinds args ((Arity.exact kinds.length).error args.length)
  /-- An argument does not fit. -/
  | argument {error : Error} : args.length = kinds.length → Arguments.Refuses kinds args error →
      Refuses kinds args error

/-- A function with typed parameters and a run of further arguments is not called, with the
error. -/
inductive RefusesWithRun (arity : Arity) (kinds : List ParamKind) (items : ItemKind)
    (args : List Value) : Error → Prop
  /-- The number of arguments is not accepted. -/
  | count : arity.accepts args.length = false →
      RefusesWithRun arity kinds items args (arity.error args.length)
  /-- The arguments do not cover the parameters. -/
  | uncovered : arity.accepts args.length = true → args.length < kinds.length →
      RefusesWithRun arity kinds items args ((Arity.atLeast kinds.length).error args.length)
  /-- An argument for a parameter does not fit. -/
  | argument {error : Error} : arity.accepts args.length = true → kinds.length ≤ args.length →
      Arguments.Refuses kinds args error → RefusesWithRun arity kinds items args error
  /-- The arguments for the parameters fit, and a further argument does not. -/
  | item {error : Error} (arguments : Arguments kinds) (rest : List Value) :
      arity.accepts args.length = true → args = arguments.toValues ++ rest →
      items.RefusesRun rest error → RefusesWithRun arity kinds items args error

/-- When there is one argument for each parameter, they are converted. -/
theorem received_of_length {kinds : List ParamKind} {args : List Value}
    (h : args.length = kinds.length) :
    received kinds args = (Arguments.take kinds args).map Prod.fst := by
  rw [received, Arity.check_eq_ok (.exact _) (Arity.accepts_exact.mpr h)]
  cases Arguments.take kinds args <;> rfl

/-- What a function with typed parameters receives is known: one argument for each parameter, when
all of them fit. -/
theorem decides_received (kinds : List ParamKind) (args : List Value) :
    Decides (received kinds args) (fun arguments => args = arguments.toValues)
      (Refuses kinds args) := by
  refine .of_cases ?ok ?error ?cases
  case ok =>
    rintro arguments rfl
    rw [received_of_length arguments.length_toValues, ← List.append_nil arguments.toValues,
      Arguments.take_toValues]
    rfl
  case error =>
    rintro error (hlength | ⟨hlength, hrefused⟩)
    · rw [received, Arity.check_eq_error (.exact _) (mt Arity.accepts_exact.mp hlength)]
      rfl
    · rw [received_of_length hlength, Arguments.take_of_refuses hrefused]
      rfl
  case cases =>
    by_cases hlength : args.length = kinds.length
    · rcases Arguments.fits_or_refuses (Nat.le_of_eq hlength.symm) with
        ⟨arguments, rest, rfl⟩ | ⟨error, hrefused⟩
      · rw [List.length_append, arguments.length_toValues, Nat.add_eq_left,
          List.length_eq_zero_iff] at hlength
        rw [hlength, List.append_nil]
        exact .inl ⟨arguments, rfl⟩
      · exact .inr ⟨error, .argument hlength hrefused⟩
    · exact .inr ⟨_, .count hlength⟩

/-- When the number of arguments is accepted and covers the parameters, they are converted. -/
theorem receivedWithRun_of_covered {arity : Arity} {kinds : List ParamKind} (items : ItemKind)
    {args : List Value} (haccepted : arity.accepts args.length = true)
    (hcovered : kinds.length ≤ args.length) :
    receivedWithRun arity kinds items args = (do
      let (arguments, rest) ← Arguments.take kinds args
      let run ← items.convertAll rest
      return (arguments, run)) := by
  rw [receivedWithRun, arity.check_eq_ok haccepted,
    Arity.check_eq_ok (.atLeast _) (Arity.accepts_atLeast.mpr hcovered)]
  rfl

/-- When the arguments for the parameters fit, the others are converted as the run. -/
theorem receivedWithRun_append {arity : Arity} {kinds : List ParamKind} (items : ItemKind)
    (arguments : Arguments kinds) (rest : List Value)
    (haccepted : arity.accepts (arguments.toValues ++ rest).length = true) :
    receivedWithRun arity kinds items (arguments.toValues ++ rest) =
      (items.convertAll rest).map fun run => (arguments, run) := by
  have hcovered : kinds.length ≤ (arguments.toValues ++ rest).length := by
    rw [List.length_append, arguments.length_toValues]
    exact Nat.le_add_right ..
  rw [receivedWithRun_of_covered items haccepted hcovered, Arguments.take_toValues]
  cases hrun : items.convertAll rest <;> simp only [bind, Except.bind, hrun] <;> rfl

/-- What a function with a run of further arguments receives is known: one argument for each
parameter and all others as the run, when their number is accepted and all of them fit. -/
theorem decides_receivedWithRun (arity : Arity) (kinds : List ParamKind) (items : ItemKind)
    (args : List Value) :
    Decides (receivedWithRun arity kinds items args)
      (fun (arguments, run) => arity.accepts args.length = true ∧
        args = arguments.toValues ++ run.map items.toValue)
      (RefusesWithRun arity kinds items args) := by
  refine .of_cases ?ok ?error ?cases
  case ok =>
    rintro ⟨arguments, run⟩ ⟨haccepted, rfl⟩
    rw [receivedWithRun_append items arguments _ haccepted,
      ((items.decides_convertAll _).ok_iff run).mpr rfl]
    rfl
  case error =>
    rintro error (hrefused | ⟨haccepted, hshort⟩ | ⟨haccepted, hcovered, hrefused⟩ |
      ⟨arguments, rest, haccepted, rfl, hrefused⟩)
    · rw [receivedWithRun, arity.check_eq_error (Bool.eq_false_iff.mp hrefused)]
      rfl
    · rw [receivedWithRun, arity.check_eq_ok haccepted,
        Arity.check_eq_error (.atLeast _) (mt Arity.accepts_atLeast.mp (Nat.not_le_of_lt hshort))]
      rfl
    · rw [receivedWithRun_of_covered items haccepted hcovered, Arguments.take_of_refuses hrefused]
      rfl
    · rw [receivedWithRun_append items arguments rest haccepted,
        ((items.decides_convertAll rest).error_iff error).mpr hrefused]
      rfl
  case cases =>
    cases haccepted : arity.accepts args.length with
    | false => exact .inr ⟨_, .count haccepted⟩
    | true =>
      rcases Nat.lt_or_ge args.length kinds.length with hshort | hcovered
      · exact .inr ⟨_, .uncovered haccepted hshort⟩
      · rcases Arguments.fits_or_refuses hcovered with ⟨arguments, rest, rfl⟩ | ⟨error, hrefused⟩
        · rcases items.fits_or_refusesRun rest with ⟨run, rfl⟩ | ⟨error, hrefused⟩
          · exact .inl ⟨(arguments, run), rfl, rfl⟩
          · exact .inr ⟨error, .item arguments rest haccepted rfl hrefused⟩
        · exact .inr ⟨error, .argument haccepted hcovered hrefused⟩

/-- Typed functions are called exactly on arguments that fit, whatever the function is. Without a
run it receives one argument for each parameter, in order; the error is about the number of the
arguments when it is wrong, and else about the leftmost that does not fit. With a run the number
must first be accepted and then cover the parameters, and the function receives all further
arguments as the run. In a run that passed every item is viewed as what it stands for, and never as
one of the values for items that do not fit. -/
theorem called_exactly_on_fitting (kinds : List ParamKind) (args : List Value) :
    ((∀ function lookup, typed kinds function lookup args =
        .ofCall (Typed.apply kinds function) (received kinds args)) ∧
      Decides (received kinds args) (fun arguments => args = arguments.toValues)
        (Refuses kinds args)) ∧
    ∀ (arity : Arity) (items : ItemKind),
      (∀ function lookup, variadic arity kinds items function lookup args =
        .ofCall (fun (arguments, run) => Typed.apply kinds function arguments run)
          (receivedWithRun arity kinds items args)) ∧
      Decides (receivedWithRun arity kinds items args)
        (fun (arguments, run) => arity.accepts args.length = true ∧
          args = arguments.toValues ++ run.map items.toValue)
        (RefusesWithRun arity kinds items args) ∧
      ∀ run, items.check run = .ok () → ∀ value ∈ run, items.toValue (items.view value) = value :=
  ⟨⟨fun function lookup => typed_eq kinds function lookup args, decides_received kinds args⟩,
    fun arity items => ⟨fun function lookup => variadic_eq arity kinds items function lookup args,
      decides_receivedWithRun arity kinds items args,
      fun _ hchecked _ hmem => ItemKind.toValue_view_of_check hchecked hmem⟩⟩

end Operation

end ShapeLisp
