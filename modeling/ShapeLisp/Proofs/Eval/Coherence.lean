import ShapeLisp.Proofs.Eval.Arguments
import ShapeLisp.Proofs.Eval.Lock
import ShapeLisp.Proofs.Host.Blame
import ShapeLisp.Proofs.Reader.Produced
import ShapeLisp.Proofs.Scope.Lookup
import ShapeLisp.Proofs.Value.Parts

/-!
# Coherent stores

Values refer to what is outside of them: a builtin to a function of the host, and a closure to the
scope that it was made in. A closure also carries the name of its rest parameter, which is a
function of its parameters. A store is coherent when all that its values say in this way is so, and
when every scope lies inside the first one.

Evaluations keep stores coherent, as long as the functions of the host make up no references of
their own, and so do sessions. Where an evaluation in a coherent store fails because a name is not
bound, the name is bound in no scope from some scope outward.
-/

namespace ShapeLisp

variable [Regex.Engine]

/-! ### Values -/

namespace Value

/-- What a value itself says of a host and of a number of scopes is so: a builtin is a function of
the host, and a closure has the rest parameter of its parameters and one of the scopes. -/
def Linked (host : Host) (size : Nat) : Value → Prop
  | .builtin id => (host.operation? id).isSome = true
  | .closure params rest _ scope => Shape.restName params = .ok rest ∧ scope < size
  | _ => True

/-- What a value and all its parts say of a host and of a number of scopes is so. -/
def Belongs (host : Host) (size : Nat) (value : Value) : Prop :=
  ∀ part : Value, part.Within value → part.Linked host size

variable {host : Host} {size : Nat}

/-- More scopes do no harm. -/
theorem Belongs.mono {larger : Nat} {value : Value} (hle : size ≤ larger)
    (h : value.Belongs host size) : value.Belongs host larger := by
  intro part hpart
  have hlinked := h part hpart
  cases part with
  | closure params rest body scope => exact ⟨hlinked.1, Nat.lt_of_lt_of_le hlinked.2 hle⟩
  | _ => exact hlinked

/-- A symbol refers to nothing. -/
theorem belongs_sym (name : String) : (Value.sym name).Belongs host size := by
  rintro part ⟨⟩
  exact trivial

/-- A builtin belongs to a host that has it. -/
theorem belongs_builtin {id : String} :
    (Value.builtin id).Belongs host size ↔ (host.operation? id).isSome = true := by
  constructor
  · exact fun h => h _ (.self _)
  · rintro h part ⟨⟩
    exact h

/-- A list belongs where its items do. -/
theorem belongs_list {items : List Value} :
    (Value.list items).Belongs host size ↔ ∀ item ∈ items, item.Belongs host size :=
  everywhere_list.trans (and_iff_right trivial)

/-- A list of symbols refers to nothing. -/
theorem belongs_symbols (names : List String) :
    (Value.list (names.map .sym)).Belongs host size := by
  refine belongs_list.mpr fun item hmem => ?_
  obtain ⟨name, -, rfl⟩ := List.mem_map.mp hmem
  exact belongs_sym name

/-- A quotation belongs where what is quoted does. -/
theorem belongs_quoted {inner : Value} :
    (Value.quoted inner).Belongs host size ↔ inner.Belongs host size :=
  everywhere_quoted.trans (and_iff_right trivial)

/-- A closure belongs where its parts do and its scope exists, when it has the rest parameter of
its parameters. -/
theorem belongs_closure {params : List Value} {rest : Option String} {body : Value}
    {scope : ScopeId} : (Value.closure params rest body scope).Belongs host size ↔
      (∀ param ∈ params, param.Belongs host size) ∧ body.Belongs host size ∧
        Shape.restName params = .ok rest ∧ scope < size := by
  refine everywhere_closure.trans ?_
  rw [and_comm, and_assoc]
  rfl

/-- Data refers to nothing. -/
theorem IsData.belongs {value : Value} (h : value.IsData) : value.Belongs host size := by
  induction h with
  | list _ ih => exact belongs_list.mpr ih
  | _ =>
    rintro part ⟨⟩
    exact trivial

/-- Reading gives the parts of what it gives. -/
theorem Within.produced {part value : Value} (h : part.Within value) (hvalue : value.Produced) :
    part.Produced := by
  induction h with
  | self => exact hvalue
  | item hmem _ ih => exact ih (producedAll_iff.mp hvalue _ hmem)
  | inner _ ih => exact ih hvalue
  | param => exact hvalue.elim
  | body => exact hvalue.elim

/-- What is read refers to nothing, since no function can be written. -/
theorem Produced.belongs {value : Value} (h : value.Produced) : value.Belongs host size := by
  intro part hpart
  have hproduced := hpart.produced h
  cases part with
  | builtin | closure => exact hproduced.elim
  | _ => exact trivial

/-- What a source text is read as refers to nothing. -/
theorem belongs_of_read {source : String} {value : Value} (h : Reader.read source = .ok value) :
    value.Belongs host size := by
  obtain ⟨values, -, hproduced, hvalue⟩ := Reader.readChars_produced h
  rcases hvalue with rfl | ⟨-, rfl⟩
  · exact (hproduced value List.mem_cons_self).1.belongs
  · exact belongs_list.mpr fun item hmem => (hproduced item hmem).1.belongs

end Value

/-- The body of a function belongs where its forms do. -/
theorem belongs_bodyOf {host : Host} {size : Nat} {forms : List Value}
    (h : ∀ form ∈ forms, form.Belongs host size) : (Form.bodyOf forms).Belongs host size := by
  unfold Form.bodyOf
  split
  · next form => exact h form List.mem_cons_self
  · exact Value.belongs_list.mpr (List.forall_mem_cons.mpr ⟨Value.belongs_sym _, h⟩)

/-! ### Host functions -/

/-- The host function makes up no references: what it answers belongs where its arguments and all
that it can look up do. -/
def Operation.StaysWithin (known : Host) (operation : Operation) : Prop :=
  ∀ (size : Nat) (lookup : String → Except Error Value) (args : List Value) (value : Value),
    (∀ name found, lookup name = .ok found → found.Belongs known size) →
    (∀ arg ∈ args, arg.Belongs known size) → (operation lookup args).result = .ok value →
    value.Belongs known size

/-- The functions of a host make up no references. -/
def Host.StaysWithin (host known : Host) : Prop :=
  ∀ registration ∈ host, registration.operation.StaysWithin known

/-- The standard functions make up no references, since they answer with data. -/
theorem Standard.host_staysWithin (known : Host) : host.StaysWithin known :=
  fun _ hmem _ lookup args value _ _ hvalue =>
    (givesData_host hmem lookup args value hvalue).belongs

/-! ### Stores -/

/-- A store in which all that values say of the host and the scopes is so, and in which every scope
lies inside the first. -/
structure Store.Coherent (host : Host) (store : Store) : Prop where
  /-- The values that names are bound to belong to the store. -/
  values : ∀ id name, ∀ binding ∈ (store.scope id).bindings name,
    binding.value.Belongs host store.scopes.size
  /-- Every scope lies inside the first. -/
  rooted : ∀ id < store.scopes.size, 0 ∈ store.chain id

namespace Store.Coherent

variable {host : Host} {store : Store}

/-- A binding to a value that belongs to the store. -/
theorem bind (h : store.Coherent host) {id : ScopeId} (hid : id < store.scopes.size)
    (name : String) {binding : Binding}
    (hvalue : binding.value.Belongs host store.scopes.size) :
    (store.bind id name binding).Coherent host where
  values other bound found hmem := by
    rw [size_bind]
    rw [bindings_bind hid] at hmem
    split at hmem
    · rcases List.mem_append.mp hmem with hold | hnew
      · exact h.values other bound found hold
      · rwa [List.mem_singleton.mp hnew]
    · exact h.values other bound found hmem
  rooted other hother := by
    rw [size_bind] at hother
    rw [chain_bind hid]
    exact h.rooted other hother

/-- A new scope inside a scope. -/
theorem addChild (h : store.Coherent host) {outer : ScopeId} (houter : outer < store.scopes.size) :
    (store.addChild outer).2.Coherent host where
  values id name binding hmem := by
    rw [size_addChild]
    rw [scope_addChild] at hmem
    split at hmem
    · cases hmem
    · exact (h.values id name binding hmem).mono (Nat.le_succ _)
  rooted id hid := by
    rw [chain, scope_addChild]
    split
    · exact List.mem_cons_of_mem _ (h.rooted outer houter)
    · next hne =>
      rw [size_addChild] at hid
      exact h.rooted id (Nat.lt_of_le_of_ne (Nat.le_of_lt_succ hid) hne)

/-- What a lookup finds belongs to the store. -/
theorem lookup (h : store.Coherent host) {id : ScopeId} {name : String} {binding : Binding}
    (hfound : store.lookup id name = .ok binding) :
    binding.value.Belongs host store.scopes.size := by
  obtain ⟨near, hmem⟩ := exists_mem_of_lookup hfound
  exact h.values near name binding hmem

/-- What a lookup with arguments finds belongs to the store. -/
theorem dispatch (h : store.Coherent host) {id : ScopeId} {name : String} {args : List Value}
    {found : Binding × Dispatch} (hfound : store.dispatch id name args = .ok found) :
    found.1.value.Belongs host store.scopes.size := by
  obtain ⟨near, hmem⟩ := exists_mem_of_dispatch hfound
  exact h.values near name found.1 hmem

/-- A definition of a value that belongs to the store. -/
theorem define (h : store.Coherent host) {id : ScopeId} (hid : id < store.scopes.size)
    {name : String} {binding : Binding} {after : Store}
    (hvalue : binding.value.Belongs host store.scopes.size)
    (hdefine : store.define id name binding = .ok after) :
    after.Coherent host ∧ after.scopes.size = store.scopes.size := by
  rw [Store.define] at hdefine
  split at hdefine
  · cases hdefine
  · obtain rfl := Except.ok.inj hdefine
    exact ⟨h.bind hid name hvalue, size_bind ..⟩

/-- Bindings to values that belong to the store, one after the other. -/
theorem bindEach {α : Type} (name : α → String) (binding : α → Binding) {id : ScopeId}
    {entries : List α} (h : store.Coherent host) (hid : id < store.scopes.size)
    (hentries : ∀ entry ∈ entries, (binding entry).value.Belongs host store.scopes.size) :
    let after := entries.foldl
      (fun store entry => store.bind id (name entry) (binding entry)) store
    after.Coherent host ∧ after.scopes.size = store.scopes.size := by
  induction entries generalizing store with
  | nil => exact ⟨h, rfl⟩
  | cons entry rest ih =>
    have hsize := size_bind store id (name entry) (binding entry)
    have hbound := h.bind hid (name entry) (hentries entry List.mem_cons_self)
    obtain ⟨hafter, hsame⟩ := ih hbound (hsize ▸ hid) fun other hmem =>
      hsize ▸ hentries other (List.mem_cons_of_mem _ hmem)
    exact ⟨hafter, hsame.trans hsize⟩

/-- The functions of a host that can be called, bound in a scope. -/
theorem register (h : store.Coherent host) {id : ScopeId} (hid : id < store.scopes.size)
    {added : Host} (hadded : added ⊆ host) :
    (added.register id store).Coherent host ∧
      (added.register id store).scopes.size = store.scopes.size :=
  h.bindEach Registration.name
    (fun registration => ⟨.builtin registration.name, registration.options⟩) hid fun _ hmem =>
      Value.belongs_builtin.mpr (Host.isSome_operation? (hadded hmem))

end Store.Coherent

/-- The store with one scope and no bindings. -/
theorem Store.coherent_addRoot (host : Host) : Store.empty.addRoot.2.Coherent host where
  values id name binding hmem := by
    cases id <;> cases hmem
  rooted id hid := by
    obtain rfl := Nat.lt_one_iff.mp hid
    exact List.mem_cons_self

/-- The store that every global session starts with. -/
theorem Standard.coherent_globalStore {known : Host} (h : host ⊆ known) :
    globalStore.2.Coherent known ∧ globalStore.2.scopes.size = 1 := by
  have hconstants : ∀ entry ∈ constants, entry.2.IsData := by
    intro entry hmem
    simp only [constants, List.mem_cons, List.not_mem_nil, or_false] at hmem
    rcases hmem with rfl | rfl | rfl
    · exact .bool true
    · exact .bool false
    · exact .nil
  obtain ⟨hstore, hsize⟩ := (Store.coherent_addRoot known).register Nat.one_pos h
  obtain ⟨hafter, hsame⟩ := hstore.bindEach Prod.fst (fun entry => ⟨entry.2, {}⟩)
    (Nat.lt_of_lt_of_eq Nat.one_pos hsize.symm) fun entry hmem => (hconstants entry hmem).belongs
  exact ⟨hafter, hsame.trans hsize⟩

/-! ### Runs -/

/-- A note does not turn another error into the failure to find a name. -/
theorem Error.eq_undefinedSymbol_of_annotate {error : Error} {note : Note} {name : String}
    (h : error.annotate note = .undefinedSymbol name) : error = .undefinedSymbol name := by
  cases error with
  | eval failure => cases h
  | _ => exact h

/-- How a run in a coherent store of so many scopes ends. -/
structure EndsCoherent (host : Host) (size : Nat) {α : Type} (Post : Nat → α → Prop)
    (outcome : Except Error α × World) : Prop where
  /-- No scope is lost. -/
  size_le : size ≤ outcome.2.store.scopes.size
  /-- The store is coherent. -/
  coherent : outcome.2.store.Coherent host
  /-- What is known of a value that is returned. -/
  value : ∀ a, outcome.1 = .ok a → Post outcome.2.store.scopes.size a
  /-- A name that cannot be found is bound in no scope from some scope outward. -/
  missing : host.BlamesLookups → ∀ name, outcome.1 = .error (.undefinedSymbol name) →
    ∃ id < outcome.2.store.scopes.size, outcome.2.store.Unbound id name

/-- In coherent stores of at least so many scopes, the scope among them, the run ends in a coherent
store. -/
def Run.Coheres (host : Host) (n : Nat) (scope : ScopeId) {α : Type} (Post : Nat → α → Prop)
    (run : Run α) : Prop :=
  ∀ world : World, n ≤ world.store.scopes.size → scope < world.store.scopes.size →
    world.store.Coherent host →
    EndsCoherent host world.store.scopes.size Post (run.outcome world)

namespace EndsCoherent

variable {host : Host} {size : Nat} {α : Type} {Post : Nat → α → Prop} {world : World}

/-- A run may have started with fewer scopes. -/
theorem of_le {smaller : Nat} {outcome : Except Error α × World} (hle : smaller ≤ size)
    (h : EndsCoherent host size Post outcome) : EndsCoherent host smaller Post outcome :=
  { h with size_le := Nat.le_trans hle h.size_le }

/-- A value. -/
theorem ok {a : α} (hsize : size ≤ world.store.scopes.size) (hstore : world.store.Coherent host)
    (ha : Post world.store.scopes.size a) : EndsCoherent host size Post (.ok a, world) where
  size_le := hsize
  coherent := hstore
  value b hb := by
    obtain rfl := Except.ok.inj hb
    exact ha
  missing _ name h := nomatch h

/-- An error. -/
theorem error {error : Error} (hsize : size ≤ world.store.scopes.size)
    (hstore : world.store.Coherent host)
    (herror : host.BlamesLookups → ∀ name, error = .undefinedSymbol name →
      ∃ id < world.store.scopes.size, world.store.Unbound id name) :
    EndsCoherent host size Post (.error error, world) where
  size_le := hsize
  coherent := hstore
  value _ h := nomatch h
  missing hblames name h := herror hblames name (Except.error.inj h)

end EndsCoherent

namespace Run.Coheres

variable {host : Host} {n : Nat} {scope : ScopeId} {α β : Type} {Post : Nat → α → Prop}

/-- Returning a value. -/
theorem returns {a : α} (ha : ∀ m, n ≤ m → scope < m → Post m a) :
    Coheres host n scope Post (pure a) :=
  fun _ hsize hscope hstore => .ok (Nat.le_refl _) hstore (ha _ hsize hscope)

/-- Raising an error that blames no name. -/
theorem fails {error : Error} (h : ∀ name, error ≠ .undefinedSymbol name) :
    Coheres host n scope Post (throw error) :=
  fun _ _ _ hstore => .error (Nat.le_refl _) hstore fun _ name hname => absurd hname (h name)

/-- One run after another. -/
theorem bind {Mid : Nat → α → Prop} {Post : Nat → β → Prop} {run : Run α} {next : α → Run β}
    (hrun : Coheres host n scope Mid run)
    (hnext : ∀ m, n ≤ m → ∀ a, Mid m a → Coheres host m scope Post (next a)) :
    Coheres host n scope Post (run >>= next) := by
  intro world hsize hscope hstore
  have hfirst := hrun world hsize hscope hstore
  rw [outcome_bind]
  generalize run.outcome world = outcome at hfirst ⊢
  obtain ⟨result, after⟩ := outcome
  cases result with
  | error error =>
    exact .error hfirst.size_le hfirst.coherent fun hblames name hname =>
      hfirst.missing hblames name (congrArg Except.error hname)
  | ok a =>
    have hlater := hnext _ (Nat.le_trans hsize hfirst.size_le) a (hfirst.value a rfl) after
      (Nat.le_refl _) (Nat.lt_of_lt_of_le hscope hfirst.size_le) hfirst.coherent
    exact hlater.of_le hfirst.size_le

/-- Adding a note to errors. -/
theorem annotated {run : Run α} (hrun : Coheres host n scope Post run) (note : Note) :
    Coheres host n scope Post (Run.mapError (fun error => error.annotate note) run) := by
  intro world hsize hscope hstore
  have hfirst := hrun world hsize hscope hstore
  rw [outcome_mapError]
  generalize run.outcome world = outcome at hfirst ⊢
  obtain ⟨result, after⟩ := outcome
  cases result with
  | ok a => exact hfirst
  | error error =>
    exact .error hfirst.size_le hfirst.coherent fun hblames name hname =>
      hfirst.missing hblames name
        (congrArg Except.error (Error.eq_undefinedSymbol_of_annotate hname))

/-- Noting an event. -/
theorem emit (event : Event) : Coheres host n scope (fun _ _ => True) (Run.emit event) :=
  fun _ _ _ hstore => .ok (Nat.le_refl _) hstore trivial

/-- Looking a name up. -/
theorem lookup (name : String) :
    Coheres host n scope (fun m binding => binding.value.Belongs host m)
      (Run.lookup scope name) := by
  intro world _ hscope hstore
  rw [outcome_lookup]
  cases hfound : world.store.lookup scope name with
  | ok binding => exact .ok (Nat.le_refl _) hstore (hstore.lookup hfound)
  | error error =>
    obtain ⟨hunbound, rfl⟩ := Store.lookup_eq_error_iff.mp hfound
    refine .error (Nat.le_refl _) hstore fun _ other hother => ?_
    obtain rfl := Error.undefinedSymbol.inj hother
    exact ⟨scope, hscope, hunbound⟩

/-- Choosing a binding by arguments. -/
theorem dispatch (name : String) (args : List Value) :
    Coheres host n scope (fun m binding => binding.value.Belongs host m)
      (Run.dispatch scope name args) := by
  intro world _ hscope hstore
  rw [outcome_dispatch]
  cases hfound : world.store.dispatch scope name args with
  | ok found => exact .ok (Nat.le_refl _) hstore (hstore.dispatch hfound)
  | error error =>
    obtain ⟨hunbound, rfl⟩ := Store.dispatch_eq_error_iff.mp hfound
    refine .error (Nat.le_refl _) hstore fun _ other hother => ?_
    obtain rfl := Error.undefinedSymbol.inj hother
    exact ⟨scope, hscope, hunbound⟩

/-- Defining a name. -/
theorem define (name : String) {value : Value} (hvalue : value.Belongs host n) :
    Coheres host n scope (fun _ _ => True) (Run.define scope name value) := by
  intro world hsize hscope hstore
  rw [outcome_define]
  split
  · next after hdefine =>
    obtain ⟨hafter, hsame⟩ := hstore.define hscope (hvalue.mono hsize) hdefine
    exact .ok (Nat.le_of_eq hsame.symm) hafter trivial
  · next error hdefine =>
    refine .error (Nat.le_refl _) hstore fun _ other hother => ?_
    rw [Store.define, hother] at hdefine
    split at hdefine <;> cases hdefine

/-- Binding names one after the other. -/
theorem bindAll {bindings : List (String × Value)}
    (h : ∀ entry ∈ bindings, entry.2.Belongs host n) :
    Coheres host n scope (fun _ _ => True) (Run.bindAll scope bindings) := by
  induction bindings generalizing n with
  | nil => exact returns fun _ _ _ => trivial
  | cons entry rest ih =>
    have hentry : Coheres host n scope (fun _ _ => True) (Run.bind scope entry.1 entry.2) := by
      intro world hsize hscope hstore
      have hbelongs := (h entry List.mem_cons_self).mono hsize
      exact .ok (Nat.le_of_eq (Store.size_bind ..).symm) (hstore.bind hscope entry.1 hbelongs)
        trivial
    exact hentry.bind fun m hm _ _ =>
      ih fun other hmem => (h other (List.mem_cons_of_mem _ hmem)).mono hm

/-- Binding the arguments of a call. -/
theorem arguments (params : List Value) (rest : Option String) {args : List Value}
    (h : ∀ arg ∈ args, arg.Belongs host n) :
    Coheres host n scope (fun _ _ => True) (bindArguments scope params rest args) := by
  unfold bindArguments
  split
  · next bindings hmatch =>
    exact bindAll (forall_matchedBindings (fun text => (Value.IsData.str text).belongs)
      Value.belongs_list h hmatch)
  · refine (emit _).bind fun m hm _ _ => bindAll ?_
    exact forall_positionalBindings Value.IsData.nil.belongs Value.belongs_list params rest
      fun arg hmem => (h arg hmem).mono hm

/-- Running in a new scope. -/
theorem newScope {outer : ScopeId} {run : ScopeId → Run α} {world : World}
    (houter : outer < world.store.scopes.size) (hstore : world.store.Coherent host)
    (hrun : ∀ m inner, world.store.scopes.size ≤ m → Coheres host m inner Post (run inner)) :
    EndsCoherent host world.store.scopes.size Post
      ((Run.newScope outer >>= run).outcome world) := by
  have hsize := world.store.size_addChild outer
  rw [outcome_bind_ok (outcome_newScope outer world)]
  refine (hrun _ world.store.scopes.size (Nat.le_refl _)
    ⟨(world.store.addChild outer).2, world.events⟩ ?_ ?_ (hstore.addChild houter)).of_le ?_
  · exact hsize ▸ Nat.le_succ _
  · exact hsize ▸ Nat.lt_succ_self _
  · exact hsize ▸ Nat.le_succ _

end Run.Coheres

/-- Calling a builtin of a host whose functions make up no references. -/
theorem Stage.coheres_builtin (stage : Stage)
    (hhost : stage.interpreter.host.StaysWithin stage.interpreter.host) {n : Nat} {scope : ScopeId}
    {id : String} {args : List Value} (hid : (Value.builtin id).Belongs stage.interpreter.host n)
    (hargs : ∀ arg ∈ args, arg.Belongs stage.interpreter.host n) :
    Run.Coheres stage.interpreter.host n scope
      (fun m value => value.Belongs stage.interpreter.host m)
      (stage.applyCallable (.builtin id) args scope) := by
  intro world hsize hscope hstore
  obtain ⟨operation, hoperation⟩ := Option.isSome_iff_exists.mp (Value.belongs_builtin.mp hid)
  obtain ⟨registration, hmem, rfl⟩ := Host.mem_of_operation? hoperation
  rw [outcome_builtin, hoperation]
  dsimp only
  set lookup : String → Except Error Value :=
    fun name => (world.store.lookup scope name).map Binding.value with hlookup
  cases hresult : (registration.operation lookup args).result with
  | ok value =>
    refine .ok (Nat.le_refl _) hstore ?_
    refine hhost registration hmem _ lookup args value ?_ (fun arg harg =>
      (hargs arg harg).mono hsize) hresult
    intro name found hfound
    cases hbinding : world.store.lookup scope name with
    | error error =>
      simp only [hlookup, hbinding, Except.map] at hfound
      cases hfound
    | ok binding =>
      simp only [hlookup, hbinding, Except.map] at hfound
      obtain rfl := Except.ok.inj hfound
      exact hstore.lookup hbinding
  | error error =>
    refine .error (Nat.le_refl _) hstore fun hblames name hname => ?_
    subst hname
    obtain ⟨asked, hasked⟩ := hblames registration hmem lookup args name hresult
    cases hbinding : world.store.lookup scope asked with
    | ok binding =>
      simp only [hlookup, hbinding, Except.map] at hasked
      cases hasked
    | error error =>
      simp only [hlookup, hbinding, Except.map] at hasked
      obtain rfl := Except.error.inj hasked
      obtain ⟨hunbound, hsame⟩ := Store.lookup_eq_error_iff.mp hbinding
      obtain rfl := Error.undefinedSymbol.inj hsame
      exact ⟨scope, hscope, hunbound⟩

/-! ### Evaluations -/

/-- The condition was met with some number of scopes between the two. -/
def MetSince (n : Nat) {α : Type} (Post : Nat → α → Prop) (m : Nat) (a : α) : Prop :=
  ∃ k, n ≤ k ∧ k ≤ m ∧ Post k a

namespace Run.Coheres

variable {host : Host} {n : Nat} {scope : ScopeId} {α β : Type} {Post : Nat → α → Prop}

/-- A condition that is met in the end was met with some number of scopes. -/
theorem metSince {run : Run α} (h : Coheres host n scope Post run) :
    Coheres host n scope (MetSince n Post) run := by
  intro world hsize hscope hstore
  have hend := h world hsize hscope hstore
  exact { hend with value := fun a ha =>
    ⟨_, Nat.le_trans hsize hend.size_le, Nat.le_refl _, hend.value a ha⟩ }

/-- Less may be asked of when the condition was met, and more of the store at first. -/
theorem weaken {k m : Nat} {run : Run α} (h : Coheres host k scope (MetSince k Post) run)
    (hn : n ≤ k) (hm : k ≤ m) : Coheres host m scope (MetSince n Post) run := by
  intro world hsize hscope hstore
  have hend := h world (Nat.le_trans hm hsize) hscope hstore
  refine { hend with value := fun a ha => ?_ }
  obtain ⟨met, hk, hmet, hpost⟩ := hend.value a ha
  exact ⟨met, Nat.le_trans hn hk, hmet, hpost⟩

/-- One run after another, when the second ends well from where the condition was met. -/
theorem bind_metSince {Mid : Nat → α → Prop} {Post : Nat → β → Prop} {run : Run α}
    {next : α → Run β} (hrun : Coheres host n scope (MetSince n Mid) run)
    (hnext : ∀ m, n ≤ m → ∀ a, Mid m a → Coheres host m scope (MetSince m Post) (next a)) :
    Coheres host n scope (MetSince n Post) (run >>= next) := by
  refine hrun.bind ?_
  rintro m hm a ⟨k, hnk, hkm, ha⟩
  exact (hnext k hnk a ha).weaken hnk hkm

end Run.Coheres

/-- The logic of coherence. Values are good when they belong to the store. -/
def coherenceLogic (host : Host) (hhost : host.StaysWithin host) : RunLogic Unit where
  interpreter _ := .standard host
  Good n value := value.Belongs host n
  Holds n scope _ Post run := (run ()).Coheres host n scope (MetSince n Post)
  good_mono hle h := h.mono hle
  good_list := Value.belongs_list
  good_quoted := Value.belongs_quoted.mp
  good_data h := h.belongs
  returns h := .returns fun _ hm _ => ⟨_, Nat.le_refl _, hm, h⟩
  bind hrun hnext := hrun.bind_metSince hnext
  fail _ := .fails fun _ h => nomatch h
  malformed _ := .fails fun _ h => nomatch h
  emit event := (Run.Coheres.emit event).metSince
  lookup _ := (Run.Coheres.lookup _).metSince
  dispatch _ _ := (Run.Coheres.dispatch _ _).metSince
  define _ hvalue := (Run.Coheres.define _ hvalue).metSince
  closure hformals hbody hrest := Run.Coheres.metSince <| .returns fun _ hm hscope =>
    Value.belongs_closure.mpr ⟨fun formal hmem => (hformals formal hmem).mono hm,
      (belongs_bodyOf hbody).mono hm, hrest, hscope⟩
  builtin hid hargs := (Stage.coheres_builtin ⟨.standard host, _⟩ hhost hid hargs).metSince
  call hclosure hargs hrun := by
    obtain ⟨-, hbody, -, houter⟩ := Value.belongs_closure.mp hclosure
    intro world hsize _ hstore
    refine Run.Coheres.newScope (Nat.lt_of_lt_of_le houter hsize) hstore fun m inner hm => ?_
    have hn := Nat.le_trans hsize hm
    refine Run.Coheres.bind (.arguments _ _ fun arg hmem => (hargs arg hmem).mono hn)
      fun k hk _ _ => ?_
    have hnk := Nat.le_trans hn hk
    exact ((hrun k hnk inner (hbody.mono hnk)).annotated _).weaken hnk (Nat.le_refl _)
  child hrun := by
    intro world hsize hscope hstore
    refine Run.Coheres.newScope hscope hstore fun m inner hm => ?_
    have hn := Nat.le_trans hsize hm
    exact (hrun m hn inner).weaken hn (Nat.le_refl _)
  context expr hrun := hrun.annotated (.context expr)

/-- Every evaluation in a coherent store ends in one, and what it returns belongs to it. -/
theorem Interpreter.coheres_evalAt {host : Host} (hhost : host.StaysWithin host) (depth : Nat)
    {n : Nat} {expr : Value} (hexpr : expr.Belongs host n) (scope : ScopeId) :
    Run.Coheres host n scope (fun m value => value.Belongs host m)
      ((Interpreter.standard host).evalAt depth expr scope) := by
  have hholds : (coherenceLogic host hhost).Holds n scope (coherenceLogic host hhost).Good
      fun _ => (Interpreter.standard host).evalAt depth expr scope :=
    RunLogic.evalAt_holds depth hexpr
  intro world hsize hscope hstore
  have hend := hholds world hsize hscope hstore
  refine { hend with value := fun value hvalue => ?_ }
  obtain ⟨m, -, hm, hbelongs⟩ := hend.value value hvalue
  exact hbelongs.mono hm

/-! ### Sessions -/

namespace Session

/-- What a session is asked to do refers to what the session has: the expressions and values belong
to its store, and so do the scopes. -/
def Action.Proper (session : Session) : Action → Prop
  | .evaluate _ expr => expr.Belongs session.interpreter.host session.store.scopes.size
  | .define _ _ value _ => value.Belongs session.interpreter.host session.store.scopes.size
  | .child _ => True
  | .adopt scope => scope < session.store.scopes.size

/-- A session can come to be as it is from another by source texts and proper actions. -/
inductive Reaches (start : Session) : Session → Prop where
  /-- Nothing was done. -/
  | refl : Reaches start start
  /-- One more thing was done. -/
  | step {session : Session} {action : Action} : Reaches start session → action.Proper session →
    Reaches start (session.perform action)
  /-- One more source text was read and evaluated. -/
  | text {session : Session} (environment : Nat) (source : String) : Reaches start session →
    Reaches start (session.evaluateText environment source).2

/-- A session with the functions of a host whose store is coherent and whose environments exist. -/
structure Coherent (host : Host) (session : Session) : Prop where
  /-- The functions that can be called are those of the host. -/
  interpreter_eq : session.interpreter = .standard host
  /-- The store is coherent. -/
  store : session.store.Coherent host
  /-- There is a scope. -/
  size_pos : 0 < session.store.scopes.size
  /-- The scopes of the environments exist. -/
  environments : ∀ scope ∈ session.environments, scope < session.store.scopes.size

namespace Coherent

variable {host : Host} {session : Session}

/-- The scope of every environment exists. -/
theorem scope_lt (h : session.Coherent host) (environment : Nat) :
    session.scope environment < session.store.scopes.size := by
  rw [scope, Array.getD_eq_getD_getElem?]
  cases hscope : session.environments[environment]? with
  | none => exact h.size_pos
  | some scope => exact h.environments scope (Array.mem_of_getElem? hscope)

/-- An evaluation in a session ends in a coherent store. -/
theorem evaluate (h : session.Coherent host) (hhost : host.StaysWithin host) (environment : Nat)
    {expr : Value} (hexpr : expr.Belongs host session.store.scopes.size) :
    EndsCoherent host session.store.scopes.size (fun m value => value.Belongs host m)
      ((session.interpreter.eval expr (session.scope environment)).outcome
        ⟨session.store, #[]⟩) := by
  rw [h.interpreter_eq]
  exact Interpreter.coheres_evalAt hhost 0 hexpr (session.scope environment) ⟨session.store, #[]⟩
    (Nat.le_refl _) (h.scope_lt environment) h.store

/-- A proper action keeps a session coherent. -/
theorem perform (h : session.Coherent host) (hhost : host.StaysWithin host) {action : Action}
    (hproper : action.Proper session) : (session.perform action).Coherent host := by
  have hlarger : ∀ {size : Nat}, session.store.scopes.size ≤ size →
      0 < size ∧ ∀ scope ∈ session.environments, scope < size := fun hle =>
    ⟨Nat.lt_of_lt_of_le h.size_pos hle,
      fun scope hmem => Nat.lt_of_lt_of_le (h.environments scope hmem) hle⟩
  cases action with
  | evaluate environment expr =>
    have hexpr : expr.Belongs host session.store.scopes.size := by
      have hexpr : expr.Belongs session.interpreter.host session.store.scopes.size := hproper
      rwa [h.interpreter_eq] at hexpr
    have hend := h.evaluate hhost environment hexpr
    exact ⟨h.interpreter_eq, hend.coherent, (hlarger hend.size_le).1, (hlarger hend.size_le).2⟩
  | define environment name value options =>
    have hvalue : value.Belongs host session.store.scopes.size := by
      have hvalue : value.Belongs session.interpreter.host session.store.scopes.size := hproper
      rwa [h.interpreter_eq] at hvalue
    rw [Session.perform, define_eq]
    cases hdefine : session.store.define (session.scope environment) name ⟨value, options⟩ with
    | error error => exact h
    | ok after =>
      obtain ⟨hafter, hsize⟩ := h.store.define (h.scope_lt environment) hvalue hdefine
      exact ⟨h.interpreter_eq, hafter, (hlarger (Nat.le_of_eq hsize.symm)).1,
        (hlarger (Nat.le_of_eq hsize.symm)).2⟩
  | child environment =>
    have hsize := session.store.size_addChild (session.scope environment)
    have hle : session.store.scopes.size ≤
        (session.store.addChild (session.scope environment)).2.scopes.size := by omega
    refine ⟨h.interpreter_eq, h.store.addChild (h.scope_lt environment), (hlarger hle).1, ?_⟩
    intro scope hmem
    rcases Array.mem_push.mp hmem with hold | rfl
    · exact (hlarger hle).2 scope hold
    · exact hsize ▸ Nat.lt_succ_self _
  | adopt scope =>
    refine ⟨h.interpreter_eq, h.store, h.size_pos, fun other hmem => ?_⟩
    rcases Array.mem_push.mp hmem with hold | rfl
    · exact h.environments other hold
    · exact hproper

/-- A session stays coherent whatever it is properly asked to do. -/
theorem reaches {start : Session} (h : start.Coherent host) (hhost : host.StaysWithin host)
    (hreaches : start.Reaches session) : session.Coherent host := by
  induction hreaches with
  | refl => exact h
  | step _ hproper ih => exact ih.perform hhost hproper
  | @text session environment source _ ih =>
    rw [evaluateText]
    split
    · next expr hread =>
      have hproper : Action.Proper session (.evaluate environment expr) :=
        Value.belongs_of_read hread
      exact ih.perform hhost hproper
    · exact ih

end Coherent

/-- A session that has just begun, with the standard functions or without them. -/
inductive IsFresh (host : Host) : Session → Prop where
  /-- The environment has the standard functions and constants and those of the host. -/
  | global : IsFresh host (global host)
  /-- The environment has nothing but the functions of the host. -/
  | bare : IsFresh host (bare host)

/-- A session that has just begun is coherent. -/
theorem IsFresh.coherent {host : Host} {session : Session} (h : session.IsFresh host) :
    session.Coherent (Standard.host ++ host) := by
  have hstandard : Standard.host ⊆ Standard.host ++ host := List.subset_append_left ..
  have hhost : host ⊆ Standard.host ++ host := List.subset_append_right ..
  have hroot : ∀ {size : Nat}, size = 1 → ∀ scope ∈ #[0], scope < size := fun hsize scope hmem => by
    rw [Array.mem_singleton.mp hmem, hsize]
    exact Nat.one_pos
  cases h with
  | global =>
    obtain ⟨hstore, hsize⟩ := Standard.coherent_globalStore hstandard
    obtain ⟨hafter, hsame⟩ := hstore.register (hsize ▸ Nat.one_pos) hhost
    exact ⟨rfl, hafter, (hsame.trans hsize) ▸ Nat.one_pos, hroot (hsame.trans hsize)⟩
  | bare =>
    obtain ⟨hafter, hsame⟩ := (Store.coherent_addRoot _).register Nat.one_pos hhost
    exact ⟨rfl, hafter, hsame ▸ Nat.one_pos, hroot hsame⟩

/-- The functions of a session whose host makes up no references make up none. -/
theorem staysWithin_append {host : Host} (h : host.StaysWithin (Standard.host ++ host)) :
    (Standard.host ++ host).StaysWithin (Standard.host ++ host) := fun registration hmem =>
  (List.mem_append.mp hmem).elim (Standard.host_staysWithin _ registration) (h registration)

end Session

end ShapeLisp
