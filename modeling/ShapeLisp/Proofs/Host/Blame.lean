import ShapeLisp.Proofs.Host.Names

/-!
# Host functions and names that are not bound

A host function may look names up, and it may pass on that a name is not bound. Of itself it need
not say so of any name. The standard functions do not: they fail for causes of their own, and only
selection looks names up and passes on what it hears.
-/

namespace ShapeLisp

variable [Regex.Engine]

/-- The result is not the failure to find a name. -/
def BlamesNoName {α : Type} (result : Except Error α) : Prop :=
  ∀ name, result ≠ .error (.undefinedSymbol name)

/-- A value blames no name. -/
theorem blamesNoName_ok {α : Type} (a : α) : BlamesNoName (.ok a : Except Error α) :=
  fun _ h => nomatch h

/-- A failure for a cause blames no name. -/
theorem blamesNoName_of {α : Type} (cause : Cause) :
    BlamesNoName (.error (.of cause) : Except Error α) :=
  fun _ h => nomatch h

/-- An error that was passed on blames no name when it did not before. -/
theorem BlamesNoName.error {α β : Type} {result : Except Error α} {error : Error}
    (h : BlamesNoName result) (hresult : result = .error error) :
    BlamesNoName (.error error : Except Error β) := by
  rintro name hname
  obtain rfl := Except.error.inj hname
  exact h name hresult

/-- A check of the number of arguments blames no name. -/
theorem Arity.blamesNoName_check (arity : Arity) (count : Nat) :
    BlamesNoName (arity.check count) := by
  unfold check
  split
  · exact blamesNoName_ok ()
  · exact blamesNoName_of _

/-- The host function blames a name only where a name that it looks up cannot be found. -/
def Operation.BlamesLookups (operation : Operation) : Prop :=
  ∀ (lookup : String → Except Error Value) (args : List Value) (name : String),
    (operation lookup args).result = .error (.undefinedSymbol name) →
    ∃ asked, lookup asked = .error (.undefinedSymbol name)

/-- The functions of a host blame names only where these cannot be found. -/
def Host.BlamesLookups (host : Host) : Prop :=
  ∀ registration ∈ host, registration.operation.BlamesLookups

/-! ### Typed functions -/

/-- Checking items one by one blames no name. -/
theorem ItemKind.blamesNoName_checkEach (expected : String) (accepts : Value → Bool)
    (run : List Value) : BlamesNoName (checkEach expected accepts run) := by
  unfold checkEach
  split
  · exact blamesNoName_of _
  · exact blamesNoName_ok ()

/-- Checking a run of items blames no name. -/
theorem ItemKind.blamesNoName_check (kind : ItemKind) (run : List Value) :
    BlamesNoName (kind.check run) := by
  cases kind with
  | any => exact blamesNoName_ok ()
  | number => exact blamesNoName_checkEach _ _ run
  | string => exact blamesNoName_checkEach _ _ run

/-- Converting items blames no name. -/
theorem ItemKind.blamesNoName_convertAll (kind : ItemKind) (run : List Value) :
    BlamesNoName (kind.convertAll run) := by
  unfold convertAll
  split
  · next error herror => exact (kind.blamesNoName_check run).error herror
  · exact blamesNoName_ok _

/-- Converting an argument blames no name. -/
theorem ParamKind.blamesNoName_convert (kind : ParamKind) (value : Value) :
    BlamesNoName (kind.convert value) := by
  unfold convert
  split
  · exact blamesNoName_ok _
  · exact blamesNoName_of _
  · exact blamesNoName_ok _
  · exact blamesNoName_of _
  · exact blamesNoName_ok _
  · exact blamesNoName_of _
  · exact blamesNoName_ok _
  · next kind run => exact kind.blamesNoName_convertAll run
  · exact blamesNoName_of _

namespace Operation

/-- Feeding arguments to a function blames no name. -/
theorem blamesNoName_feed {result : Type} (kinds : List ParamKind) (function : Typed kinds result)
    (args : List Value) : BlamesNoName (feed kinds function args) := by
  induction kinds generalizing args with
  | nil => exact blamesNoName_ok _
  | cons kind kinds ih =>
    cases args with
    | nil => exact blamesNoName_of _
    | cons value args =>
      unfold feed
      split
      · next error herror => exact (kind.blamesNoName_convert value).error herror
      · next argument _ => exact ih (function argument) args

/-- A function on the arguments as they are. -/
theorem blamesLookups_plain {function : List Value → Reply}
    (h : ∀ args, BlamesNoName (function args).result) : (plain function).BlamesLookups :=
  fun _ args name hname => absurd hname (h args name)

/-- A function with typed parameters. -/
theorem blamesLookups_typed {kinds : List ParamKind} {function : Typed kinds Reply}
    (h : Typed.Always (fun reply => BlamesNoName reply.result) kinds function) :
    (typed kinds function).BlamesLookups := by
  intro lookup args name hname
  refine absurd hname ?_
  unfold typed
  split
  · next error herror => exact (Arity.blamesNoName_check _ _).error herror name
  · split
    · next error herror => exact (blamesNoName_feed kinds function args).error herror name
    · next reply rest hfed => exact always_feed h hfed name

/-- A check of the number of arguments before a function. -/
theorem BlamesLookups.checked {operation : Operation} (h : operation.BlamesLookups)
    (arity : Arity) : (checked arity operation).BlamesLookups := by
  intro lookup args name hname
  unfold Operation.checked at hname
  split at hname
  · next error herror =>
    exact absurd hname ((Arity.blamesNoName_check arity _).error herror name)
  · exact h lookup args name hname

/-- A function with typed parameters and a run of further arguments. -/
theorem blamesLookups_variadic {arity : Arity} {kinds : List ParamKind} {items : ItemKind}
    {function : Typed kinds (List items.Carrier → Reply)}
    (h : Typed.Always (fun function => ∀ run, BlamesNoName (function run).result) kinds function) :
    (variadic arity kinds items function).BlamesLookups := by
  refine BlamesLookups.checked (BlamesLookups.checked ?_ _) arity
  intro lookup args name hname
  refine absurd hname ?_
  dsimp only
  split
  · next error herror => exact (blamesNoName_feed kinds function args).error herror name
  · next function rest hfed =>
    split
    · next error herror => exact (items.blamesNoName_convertAll rest).error herror name
    · next run _ => exact always_feed h hfed run name

end Operation

/-! ### The standard functions -/

namespace Standard

/-- A number that was computed or not. -/
theorem blamesNoName_numberResult {result : Except Error Float} (h : BlamesNoName result) :
    BlamesNoName (numberResult result).result := by
  cases result with
  | ok x => exact blamesNoName_ok _
  | error error => exact h.error rfl

/-- A sum of numbers. -/
theorem blamesNoName_addNumbers (sum : Float) (args : List Value) :
    BlamesNoName (addNumbers sum args) := by
  fun_induction addNumbers sum args with
  | case1 => exact blamesNoName_ok _
  | case2 _ _ _ ih => exact ih
  | case3 => exact blamesNoName_of _

/-- A sum. -/
theorem blamesNoName_add (args : List Value) : BlamesNoName (add args).result := by
  unfold add
  split
  · exact blamesNoName_ok _
  · exact blamesNoName_addNumbers 0.0 args

/-- A quotient of two numbers. -/
theorem blamesNoName_divideBy (x y : Float) : BlamesNoName (divideBy x y) := by
  unfold divideBy
  split
  · exact blamesNoName_of _
  · exact blamesNoName_ok _

/-- A quotient by one number after the other. -/
theorem blamesNoName_foldlM_divideBy (first : Float) (rest : List Float) :
    BlamesNoName (rest.foldlM divideBy first) := by
  induction rest generalizing first with
  | nil => exact blamesNoName_ok first
  | cons second rest ih =>
    rw [List.foldlM_cons]
    cases hquotient : divideBy first second with
    | ok quotient => exact ih quotient
    | error error => exact (blamesNoName_divideBy first second).error hquotient

/-- A quotient. -/
theorem blamesNoName_divide (args : List Float) : BlamesNoName (divide args) := by
  unfold divide
  split
  · exact blamesNoName_ok _
  · exact blamesNoName_divideBy _ _
  · exact blamesNoName_foldlM_divideBy _ _

/-- An integer that is read from a value. -/
theorem blamesNoName_toInteger (value : Value) : BlamesNoName (toInteger value) := by
  unfold toInteger
  split
  · exact blamesNoName_ok _
  · exact blamesNoName_ok _
  · split
    · exact blamesNoName_ok _
    · exact blamesNoName_of _
  · exact blamesNoName_of _

/-- A number that is read from a value. -/
theorem blamesNoName_toNumber (value : Value) : BlamesNoName (toNumber value) := by
  unfold toNumber
  split
  · exact blamesNoName_ok _
  · exact blamesNoName_ok _
  · split
    · exact blamesNoName_ok _
    · exact blamesNoName_of _
  · exact blamesNoName_of _

/-- Waiting. -/
theorem blamesNoName_wait (args : List Value) : BlamesNoName (wait args).result := by
  unfold wait
  split
  · split
    · split
      · exact blamesNoName_of _
      · exact blamesNoName_ok _
    · exact blamesNoName_of _
  · exact blamesNoName_of _
  · exact blamesNoName_of _

/-- An argument of a selection is blamed on the lookup of a symbol. -/
theorem blames_resolve {lookup : String → Except Error Value} {arg : Value} {name : String}
    (h : resolve lookup arg = .error (.undefinedSymbol name)) :
    ∃ asked, lookup asked = .error (.undefinedSymbol name) := by
  cases arg with
  | sym asked => exact ⟨asked, h⟩
  | _ => cases h

/-- A selection passes on what it hears of the names it looks up. -/
theorem blamesLookups_select : Operation.BlamesLookups select := by
  intro lookup args name hname
  unfold select at hname
  split at hname
  · next pointer value rest =>
    change selectFrom lookup pointer value = _ at hname
    unfold selectFrom at hname
    cases hpointer : resolve lookup pointer with
    | error error =>
      rw [hpointer] at hname
      obtain rfl := Except.error.inj hname
      exact blames_resolve hpointer
    | ok pointed =>
      rw [hpointer] at hname
      cases hvalue : resolve lookup value with
      | error error =>
        rw [hvalue] at hname
        cases pointed with
        | pointer path | str path =>
          obtain rfl := Except.error.inj hname
          exact blames_resolve hvalue
        | _ => cases hname
      | ok selected =>
        rw [hvalue] at hname
        cases pointed with
        | pointer path | str path => cases selected <;> cases hname
        | _ => cases hname
  · cases hname

/-- The standard functions blame names only where these cannot be found. -/
theorem host_blamesLookups : Host.BlamesLookups host := by
  simp only [Host.BlamesLookups, host, List.forall_mem_cons, List.not_mem_nil, false_implies,
    implies_true, and_true, function]
  refine ⟨.checked ?_ _, .checked ?_ _, .checked ?_ _, .checked ?_ _, .checked ?_ _,
    .checked ?_ _, .checked ?_ _, .checked ?_ _, .checked ?_ _, .checked ?_ _, .checked ?_ _,
    .checked ?_ _, .checked ?_ _, .checked ?_ _, .checked ?_ _⟩
  · exact Operation.blamesLookups_variadic blamesNoName_add
  · exact Operation.blamesLookups_variadic fun _ => blamesNoName_ok _
  · exact Operation.blamesLookups_variadic fun _ => blamesNoName_ok _
  · exact Operation.blamesLookups_variadic fun args =>
      blamesNoName_numberResult (blamesNoName_divide args)
  · exact Operation.blamesLookups_typed fun _ => blamesNoName_ok _
  · exact Operation.blamesLookups_typed fun _ _ => blamesNoName_ok _
  · exact Operation.blamesLookups_typed fun _ => blamesNoName_ok _
  · exact Operation.blamesLookups_typed fun _ => blamesNoName_ok _
  · exact Operation.blamesLookups_plain blamesNoName_wait
  · exact Operation.blamesLookups_variadic fun _ => blamesNoName_ok _
  · exact Operation.blamesLookups_typed fun value =>
      blamesNoName_numberResult (blamesNoName_toInteger value)
  · exact Operation.blamesLookups_typed fun value =>
      blamesNoName_numberResult (blamesNoName_toNumber value)
  · exact Operation.blamesLookups_typed fun _ => blamesNoName_ok _
  · exact Operation.blamesLookups_variadic fun _ => blamesNoName_ok _
  · exact blamesLookups_select

end Standard

end ShapeLisp
