import ShapeLisp.Proofs.Eval.Arguments
import ShapeLisp.Proofs.Eval.Logic

/-!
# The logic of every part of the evaluator

One rule for each function of the evaluator: a logic that holds of the evaluation of operands and
of the lower levels holds of the function. The rules follow the definitions, so a change to one
function of the evaluator concerns one rule.
-/

namespace ShapeLisp

variable [Regex.Engine]

/-! ### Operators return data -/

mutual

/-- The value of a document is data. -/
theorem Value.isData_ofJson (document : Json) : (Value.ofJson document).IsData := by
  cases document with
  | null => exact .nil
  | bool value => exact .bool value
  | int n => exact .num _
  | float x => exact .num x
  | str text => exact .str text
  | arr items => exact .list (Value.isData_ofJsonAll items)
  | obj members => exact .json _

/-- The values of documents are data. -/
theorem Value.isData_ofJsonAll (documents : List Json) :
    ∀ value ∈ Value.ofJsonAll documents, value.IsData := by
  intro value hmem
  cases documents with
  | nil => simp only [Value.ofJsonAll, List.not_mem_nil] at hmem
  | cons document rest =>
    rw [Value.ofJsonAll, List.mem_cons] at hmem
    rcases hmem with rfl | hrest
    · exact Value.isData_ofJson document
    · exact Value.isData_ofJsonAll rest value hrest

end

/-- What a path leads to is data. -/
theorem Value.isData_navigate? {path : String} {value found : Value}
    (h : Value.navigate? path value = some found) : found.IsData := by
  fun_induction Value.navigate? path value with
  | case1 inner ih => exact ih h
  | case2 document =>
    obtain ⟨document, -, rfl⟩ := Option.map_eq_some_iff.mp h
    exact Value.isData_ofJson document
  | case3 items =>
    obtain ⟨array, -, hfound⟩ := Option.bind_eq_some_iff.mp h
    obtain ⟨document, -, rfl⟩ := Option.map_eq_some_iff.mp hfound
    exact Value.isData_ofJson document
  | case4 => cases h

/-- What a path leads to, or nil, is data. -/
theorem Value.isData_getD_nil {found : Option Value}
    (h : ∀ value, found = some value → value.IsData) : (found.getD .nil).IsData := by
  cases found with
  | none => exact .nil
  | some value => exact h value rfl

namespace Operators

/-- What a regular expression finds is data. -/
theorem isData_find (literal : Regex) (text : String) :
    ∀ value ∈ find literal text, value.IsData := by
  intro value hmem
  unfold find at hmem
  split at hmem
  · obtain ⟨⟨name, found⟩, -, hvalue⟩ := List.mem_flatMap.mp hmem
    simp only [List.mem_cons, List.not_mem_nil, or_false] at hvalue
    rcases hvalue with rfl | rfl <;> exact .str _
  · split at hmem
    · obtain ⟨found, -, rfl⟩ := List.mem_map.mp hmem
      exact .str found
    · obtain ⟨found, -, rfl⟩ := List.mem_map.mp hmem
      cases found with
      | none => exact .nil
      | some found => exact .str found

/-- The result of a regular expression is data. -/
theorem isData_applyRegex (literal : Regex) (args : List Value) :
    (applyRegex literal args).IsData := by
  refine .list fun value hmem => ?_
  obtain ⟨arg, -, hvalue⟩ := List.mem_flatMap.mp hmem
  split at hvalue
  · exact isData_find literal _ value hvalue
  · cases hvalue

/-- What is looked up in a document is data. -/
theorem isData_observe (document : Json) (args : List Value) :
    ∀ value ∈ (observe document args).lookups, value.IsData := by
  fun_induction observe document args with
  | case1 => simp
  | case2 document path rest found later ih =>
    intro value hmem
    rcases List.mem_cons.mp hmem with rfl | hlater
    · apply Value.isData_getD_nil
      intro value hvalue
      obtain ⟨document, -, rfl⟩ := Option.map_eq_some_iff.mp hvalue
      exact Value.isData_ofJson document
    · exact ih value hlater
  | case3 document other rest merged hmerged ih => exact ih
  | case4 document other rest hmerged later ih => exact ih
  | case5 document other rest _ _ ih => exact ih

/-- The result of a JSON literal is data. -/
theorem isData_applyJson (document : Json) (args : List Value) :
    (applyJson document args).1.IsData := by
  unfold applyJson
  dsimp only
  split
  · exact .json _
  · exact .list (isData_observe document args)

/-- The result of a pointer is data. -/
theorem isData_applyPointer (path : String) (args : List Value) :
    (applyPointer path args).IsData := by
  have hfound : ∀ value, ((Value.navigate? path value).getD .nil).IsData := fun value =>
    Value.isData_getD_nil fun _ h => Value.isData_navigate? h
  unfold applyPointer
  split
  · exact .pointer path
  · exact hfound _
  · refine .list fun value hmem => ?_
    obtain ⟨arg, -, rfl⟩ := List.mem_map.mp hmem
    exact hfound arg

end Operators

namespace RunLogic

variable {ι : Type} {L : RunLogic ι}
variable {parts : ι → Value → ScopeId → Run Value} {lower : ι → Level}
variable {n : Nat} {scope : ScopeId}

/-- The stage of each interpreter above its lower levels. -/
abbrev stage (L : RunLogic ι) (lower : ι → Level) (i : ι) : Stage :=
  ⟨L.interpreter i, lower i⟩

/-! ### Operands -/

/-- Operands are evaluated to good values. -/
theorem runAll_holds {exprs : List Value} (h : ∀ expr ∈ exprs, L.Ready parts n expr) :
    L.Holds n scope L.GoodAll fun i =>
      Operand.runAll scope (Operand.ofExprs (parts i) exprs) := by
  induction exprs generalizing n with
  | nil => exact L.returns (List.forall_mem_nil _)
  | cons expr rest ih =>
    simp only [Operand.ofExprs, Operand.runAll]
    refine L.bind (h expr (List.mem_cons_self ..)).run fun m hm value hvalue => ?_
    have hrest : ∀ part ∈ rest, L.Ready parts m part := fun part hmem =>
      (h part (List.mem_cons_of_mem _ hmem)).mono hm
    refine L.bind (ih hrest) fun k hk values hvalues => L.returns ?_
    intro item hmem
    rcases List.mem_cons.mp hmem with rfl | hitem
    · exact L.good_mono hk hvalue
    · exact hvalues item hitem

/-- The last of several operands is evaluated to a good value. -/
theorem runLast_holds {exprs : List Value} (h : ∀ expr ∈ exprs, L.Ready parts n expr)
    {last : Value} (hlast : L.Good n last) :
    L.Holds n scope L.Good fun i =>
      Operand.runLast scope last (Operand.ofExprs (parts i) exprs) := by
  induction exprs generalizing n last with
  | nil => exact L.returns hlast
  | cons expr rest ih =>
    simp only [Operand.ofExprs, Operand.runLast]
    refine L.bind (h expr (List.mem_cons_self ..)).run fun m hm value hvalue => ?_
    exact ih (fun part hmem => (h part (List.mem_cons_of_mem _ hmem)).mono hm) hvalue

/-- A sequence is evaluated to a good value. -/
theorem runSequence_holds {exprs : List Value} (h : ∀ expr ∈ exprs, L.Ready parts n expr) :
    L.Holds n scope L.Good fun i =>
      Operand.runSequence scope (Operand.ofExprs (parts i) exprs) :=
  runLast_holds h (L.good_data .nil)

/-! ### Calls -/

/-- A builtin or a closure is called soundly; anything else fails. -/
theorem applyCallable_holds (hlower : L.LevelHolds lower) {callee : Value} {args : List Value}
    (hcallee : L.Good n callee) (hargs : L.GoodAll n args) :
    L.Holds n scope L.Good fun i => (L.stage lower i).applyCallable callee args scope := by
  cases callee with
  | builtin id => exact L.builtin hcallee hargs
  | closure params rest body outer =>
    simp only [Stage.applyCallable]
    exact L.call hcallee hargs fun m _ inner hbody => hlower.body hbody
  | _ => exact L.fail _

/-- A function is called soundly on every number of a progression. -/
theorem applyEach_holds {call : ι → Value → Run Value} (numbers : Operators.Progression)
    (hcall : ∀ m, n ≤ m → ∀ x, L.Holds m scope L.Good fun i => call i (.num x))
    (count index : Nat) {results : List Value} (hresults : L.GoodAll n results) :
    L.Holds n scope L.Good fun i =>
      Stage.applyEach (call i) numbers count index results := by
  induction count generalizing n index results with
  | zero =>
    refine L.returns (L.good_list.mpr fun item hmem => ?_)
    exact hresults item (List.mem_reverse.mp hmem)
  | succ count ih =>
    simp only [Stage.applyEach]
    refine L.bind (hcall n (Nat.le_refl n) _) fun m hm value hvalue => ?_
    apply ih (fun k hk => hcall k (Nat.le_trans hm hk))
    intro item hmem
    rcases List.mem_cons.mp hmem with rfl | hitem
    · exact hvalue
    · exact L.good_mono hm (hresults item hitem)

/-- A range is applied soundly. -/
theorem applyRange_holds (hlower : L.LevelHolds lower) (start stop : Float)
    (step : Option Float) {args : List Value} (hargs : L.GoodAll n args) :
    L.Holds n scope L.Good fun i =>
      (L.stage lower i).applyRange start stop step args scope := by
  unfold Stage.applyRange
  cases args with
  | nil => exact L.fail _
  | cons callee rest =>
    dsimp only
    split
    · cases Operators.Progression.ofRange start stop step with
      | error cause => exact L.fail cause
      | ok numbers =>
        refine applyEach_holds numbers (fun m hm x => ?_) _ _ (List.forall_mem_nil _)
        apply applyCallable_holds hlower
        · exact L.good_mono hm (hargs callee (List.mem_cons_self ..))
        · intro arg hmem
          rw [List.mem_singleton.mp hmem]
          exact L.good_data (.num x)
    · exact L.fail _

/-- An operator value is applied soundly. -/
theorem applyOperator_holds (hlower : L.LevelHolds lower) (operator : Value) {args : List Value}
    (hargs : L.GoodAll n args) :
    L.Holds n scope L.Good fun i => (L.stage lower i).applyOperator operator args scope := by
  cases operator with
  | range start stop step => exact applyRange_holds hlower start stop step hargs
  | regex literal => exact L.returns (L.good_data (Operators.isData_applyRegex literal args))
  | json document =>
    simp only [Stage.applyOperator]
    refine L.bind (L.emitAll _) fun m _ _ _ => L.returns ?_
    exact L.good_data (Operators.isData_applyJson document args)
  | pointer path => exact L.returns (L.good_data (Operators.isData_applyPointer path args))
  | _ => exact L.fail _

/-- The value that a called name is bound to is applied soundly. -/
theorem applyResolved_holds (hlower : L.LevelHolds lower) (name : String) {value : Value}
    {args : List Value} (hvalue : L.Good n value) (hargs : L.GoodAll n args) :
    L.Holds n scope L.Good fun i =>
      (L.stage lower i).applyResolved name value args scope := by
  unfold Stage.applyResolved
  split
  · exact hlower.follow hvalue hargs
  · split
    · exact applyCallable_holds hlower hvalue hargs
    · split
      · exact applyOperator_holds hlower _ hargs
      · exact L.returns hvalue

/-- A name is called soundly with evaluated arguments. -/
theorem dispatch_holds (hlower : L.LevelHolds lower) {name : String} {args : List Value}
    (hname : L.Good n (.sym name)) (hargs : L.GoodAll n args) :
    L.Holds n scope L.Good fun i => (L.stage lower i).dispatch name args scope :=
  L.bind (L.dispatch hname (forall_flatten L.good_list hargs)) fun _ hm _ hbinding =>
    applyResolved_holds hlower name hbinding (hargs.mono hm)

/-- A name is resolved soundly. -/
theorem resolve_holds (hlower : L.LevelHolds lower) {name : String}
    (hname : L.Good n (.sym name)) :
    L.Holds n scope L.Good fun i => (L.stage lower i).resolve name scope := by
  refine L.bind (L.lookup hname) fun m _ binding hbinding => ?_
  split
  · next target htarget =>
    rw [htarget] at hbinding
    exact hlower.resolve hbinding
  · exact L.returns hbinding

/-! ### Special forms -/

/-- A function is made and bound soundly. -/
theorem defineFunction_holds {name : String} {formals body : List Value}
    (hname : L.Good n (.sym name)) (hformals : L.GoodAll n formals) (hbody : L.GoodAll n body) :
    L.Holds n scope L.Good fun i =>
      Form.defineFunction name formals (Operand.ofExprs (parts i) body) scope := by
  simp only [Form.defineFunction, Operand.exprs_ofExprs, Form.makeClosure]
  cases hrest : Shape.restName formals with
  | error cause => exact L.failBind cause _
  | ok rest =>
    -- the closure is returned before it is bound, so that the rule for closures applies
    have hbound : L.Holds n scope (fun _ _ => True) fun _ =>
        pure (.closure formals rest (Form.bodyOf body) scope) >>= fun function =>
          Run.define scope name function :=
      L.bind (L.closure hformals hbody hrest) fun m hm function hfunction =>
        L.define (L.good_mono hm hname) hfunction
    simp only [pure_bind] at hbound
    exact L.bind hbound fun _ _ _ _ => L.returns (L.good_data .nil)

/-- The parameters of a definition are good when it is. -/
theorem goodAll_parameters {formals : Value} (h : L.Good n formals) :
    L.GoodAll n (Form.parameters formals) := by
  unfold Form.parameters
  split
  · exact L.good_list.mp h
  · intro value hmem
    rw [List.mem_singleton.mp hmem]
    exact h

/-- A definition is sound. -/
theorem runDefine_holds {exprs : List Value} (h : ∀ expr ∈ exprs, L.Ready parts n expr) :
    L.Holds n scope L.Good fun i =>
      Form.runDefine (Operand.ofExprs (parts i) exprs) scope := by
  cases exprs with
  | nil => exact L.fail _
  | cons target rest =>
    have htarget := (h target (List.mem_cons_self ..)).good
    have hrest : L.GoodAll n rest := fun expr hmem => (h expr (List.mem_cons_of_mem _ hmem)).good
    simp only [Operand.ofExprs, Form.runDefine, Operand.expr_ofExpr]
    cases target with
    | sym name =>
      cases rest with
      | nil => exact L.fail _
      | cons value body =>
        cases body with
        | nil =>
          refine L.bind (h value (by simp)).run fun m hm result hresult => ?_
          refine L.bind (L.define (L.good_mono hm htarget) hresult) fun _ _ _ _ => ?_
          exact L.returns (L.good_data .nil)
        | cons form body =>
          have hbody : L.GoodAll n (form :: body) := fun expr hmem =>
            hrest expr (List.mem_cons_of_mem _ hmem)
          simp only [Operand.ofExprs, Operand.expr_ofExpr]
          exact defineFunction_holds htarget
            (goodAll_parameters (hrest value (List.mem_cons_self ..))) hbody
    | list signature =>
      cases signature with
      | nil => exact L.fail _
      | cons head formals =>
        have hsignature := L.good_list.mp htarget
        cases head with
        | sym name =>
          exact defineFunction_holds (hsignature _ (List.mem_cons_self ..))
            (fun formal hmem => hsignature formal (List.mem_cons_of_mem _ hmem)) hrest
        | _ => exact L.fail _
    | _ => exact L.fail _

/-- Making a function is sound. -/
theorem runLambda_holds {exprs : List Value} (h : L.GoodAll n exprs) :
    L.Holds n scope L.Good fun i =>
      Form.runLambda (Operand.ofExprs (parts i) exprs) scope := by
  cases exprs with
  | nil => exact L.malformed _
  | cons formals body =>
    simp only [Operand.ofExprs, Form.runLambda, Operand.expr_ofExpr, Operand.exprs_ofExprs]
    cases formals with
    | list formals =>
      cases body with
      | nil => exact L.malformed _
      | cons form body =>
        have hformals := L.good_list.mp (h _ (List.mem_cons_self ..))
        simp only [Operand.ofExprs, List.isEmpty_cons, Bool.false_eq_true, if_false,
          Form.makeClosure]
        cases hrest : Shape.restName formals with
        | error cause => exact L.malformed cause
        | ok rest =>
          exact L.closure hformals (fun expr hmem => h expr (List.mem_cons_of_mem _ hmem)) hrest
    | _ => exact L.malformed _

/-- The items of the last argument are good when it is. -/
theorem spread_holds {value : Value} (h : L.Good n value) :
    L.Holds n scope L.GoodAll fun _ => Form.spread value := by
  cases value with
  | list items => exact L.returns (L.good_list.mp h)
  | nil => exact L.returns (List.forall_mem_nil _)
  | _ => exact L.fail _

/-- The operands of an application but the last are those of all its expressions but the last. -/
theorem dropLast_ofExprs (self : Value → ScopeId → Run Value) (first : Value)
    (more : List Value) :
    (Operand.ofExpr self first :: Operand.ofExprs self more).dropLast =
      Operand.ofExprs self (first :: more).dropLast := by
  rw [← Operand.ofExprs, Operand.ofExprs_eq_map, Operand.ofExprs_eq_map, List.map_dropLast]

/-- The last operand of an application is that of its last expression. -/
theorem getLast_ofExprs (self : Value → ScopeId → Run Value) (first : Value) (more : List Value)
    (hne : Operand.ofExpr self first :: Operand.ofExprs self more ≠ []) :
    (Operand.ofExpr self first :: Operand.ofExprs self more).getLast hne =
      Operand.ofExpr self ((first :: more).getLast (List.cons_ne_nil first more)) := by
  simp only [Operand.ofExprs_eq_map, ← List.map_cons, List.getLast_map]

/-- An application to a list of arguments is sound. -/
theorem runApply_holds (hlower : L.LevelHolds lower) {exprs : List Value}
    (h : ∀ expr ∈ exprs, L.Ready parts n expr) :
    L.Holds n scope L.Good fun i =>
      Form.runApply (L.stage lower i) (Operand.ofExprs (parts i) exprs) scope := by
  match exprs with
  | [] => exact L.fail _
  | [_] => exact L.fail _
  | callee :: argument :: more =>
    have hcallee := h callee (List.mem_cons_self ..)
    have harguments : ∀ expr ∈ argument :: more, L.Ready parts n expr := fun expr hmem =>
      h expr (List.mem_cons_of_mem _ hmem)
    have hlast := harguments _ (List.getLast_mem (List.cons_ne_nil argument more))
    have hleading : ∀ expr ∈ (argument :: more).dropLast, L.Ready parts n expr :=
      fun expr hmem => harguments expr (List.dropLast_subset _ hmem)
    simp only [Operand.ofExprs, Form.runApply, Operand.expr_ofExpr, dropLast_ofExprs,
      getLast_ofExprs]
    refine L.bind (runAll_holds hleading) fun m hm leading hleading => ?_
    refine L.bind (hlast.mono hm).run fun k hk last hlast => ?_
    refine L.bind (spread_holds hlast) fun l hl items hitems => ?_
    have hml : m ≤ l := Nat.le_trans hk hl
    have hnl : n ≤ l := Nat.le_trans hm hml
    have hargs : L.GoodAll l (leading ++ items) := by
      intro arg hmem
      rcases List.mem_append.mp hmem with hlead | hitem
      · exact L.good_mono hml (hleading arg hlead)
      · exact hitems arg hitem
    split
    · split
      · exact L.fail _
      · exact dispatch_holds hlower (L.good_mono hnl hcallee.good) hargs
    · refine L.bind (hcallee.mono hnl).run fun j hj function hfunction => ?_
      split
      · exact applyCallable_holds hlower hfunction (hargs.mono hj)
      · exact L.fail _

/-- A choice by a condition is sound. -/
theorem runChoose_holds {exprs : List Value} (h : ∀ expr ∈ exprs, L.Ready parts n expr) :
    L.Holds n scope L.Good fun i =>
      Form.runChoose (Operand.ofExprs (parts i) exprs) scope := by
  match exprs with
  | [] => exact L.wrongArity _ _
  | [_] => exact L.wrongArity _ 1
  | condition :: consequent :: alternative =>
    simp only [Operand.ofExprs, Form.runChoose]
    refine L.bind (h condition (by simp)).run fun m hm value _ => ?_
    split
    · exact ((h consequent (by simp)).mono hm).run
    · cases alternative with
      | nil => exact L.returns (L.good_data .nil)
      | cons operand more =>
        simp only [Operand.ofExprs]
        exact ((h operand (by simp)).mono hm).run

/-- Local bindings are made soundly in their scope. -/
theorem runBindings_holds {bindings : List Value}
    (h : ∀ binding ∈ bindings, L.Ready parts n binding) :
    L.Holds n scope (fun _ _ => True) fun i =>
      Form.runBindings scope (Operand.ofExprs (parts i) bindings) := by
  induction bindings generalizing n with
  | nil => exact L.returns trivial
  | cons binding rest ih =>
    have hbinding := h binding (List.mem_cons_self ..)
    have hrest : ∀ m, n ≤ m → ∀ part ∈ rest, L.Ready parts m part := fun m hm part hmem =>
      (h part (List.mem_cons_of_mem _ hmem)).mono hm
    have hmalformed : L.Holds n scope (fun _ _ => True) fun i =>
        Run.fail (.malformedBinding binding) >>= fun (_ : Unit) =>
          Form.runBindings scope (Operand.ofExprs (parts i) rest) :=
      L.failBind _ _
    simp only [Operand.ofExprs, Form.runBindings, Operand.expr_ofExpr]
    cases binding with
    | list items =>
      match items with
      | [] | [_] | _ :: _ :: _ :: _ => exact hmalformed
      | [name, value] =>
        simp only [Operand.parts_ofExpr_list, Operand.ofExprs, Operand.expr_ofExpr]
        cases name with
        | sym name =>
          have hname := (hbinding.item (List.mem_cons_self ..)).good
          have hvalue : L.Ready parts n value := hbinding.item (by simp)
          refine L.bind hvalue.run fun m hm result hresult => ?_
          refine L.bind (L.define (L.good_mono hm hname) hresult) fun k hk _ _ => ?_
          exact ih (hrest k (Nat.le_trans hm hk))
        | _ => exact hmalformed
    | _ => exact hmalformed

/-- Bindings in a new scope and the sequence that sees them are sound. -/
theorem runBindLocal_holds {exprs : List Value} (h : ∀ expr ∈ exprs, L.Ready parts n expr) :
    L.Holds n scope L.Good fun i =>
      Form.runBindLocal (Operand.ofExprs (parts i) exprs) scope := by
  cases exprs with
  | nil => exact L.fail _
  | cons bindings body =>
    have hbindings := h bindings (List.mem_cons_self ..)
    have hbody : ∀ expr ∈ body, L.Ready parts n expr := fun expr hmem =>
      h expr (List.mem_cons_of_mem _ hmem)
    simp only [Operand.ofExprs, Form.runBindLocal, Operand.expr_ofExpr]
    cases bindings with
    | list bindings =>
      simp only [Operand.parts_ofExpr_list]
      refine L.child fun m hm inner => ?_
      have hinner : ∀ binding ∈ bindings, L.Ready parts m binding := fun binding hmem =>
        (hbindings.item hmem).mono hm
      refine L.bind (runBindings_holds hinner) fun k hk _ _ => ?_
      exact runSequence_holds fun expr hmem => (hbody expr hmem).mono (Nat.le_trans hm hk)
    | _ => exact L.fail _

/-- Putting a value in front of a list is sound. -/
theorem runCons_holds {exprs : List Value} (h : ∀ expr ∈ exprs, L.Ready parts n expr) :
    L.Holds n scope L.Good fun i =>
      Form.runCons (Operand.ofExprs (parts i) exprs) scope := by
  simp only [Form.runCons, Operand.length_ofExprs]
  refine L.bind (runAll_holds h) fun m _ values hvalues => ?_
  split
  · next head tail =>
    have hhead : L.Good m head := hvalues head (by simp)
    have htail : L.Good m tail := hvalues tail (by simp)
    refine L.returns ?_
    unfold Form.consValue
    split
    · next items =>
      refine L.good_list.mpr fun item hmem => ?_
      rcases List.mem_cons.mp hmem with rfl | hitem
      · exact hhead
      · exact L.good_list.mp htail item hitem
    · exact L.good_list.mpr fun item hmem => by rwa [List.mem_singleton.mp hmem]
    · refine L.good_list.mpr fun item hmem => ?_
      simp only [List.mem_cons, List.not_mem_nil, or_false] at hmem
      rcases hmem with rfl | rfl
      · exact hhead
      · exact htail
  · exact L.fail _

/-- The first item of a list and the others are found soundly. -/
theorem runNonEmpty_holds (name : String) {exprs : List Value}
    (h : ∀ expr ∈ exprs, L.Ready parts n expr) :
    L.Holds n scope (fun m found => L.Good m found.1 ∧ L.GoodAll m found.2) fun i =>
      Form.runNonEmpty name (Operand.ofExprs (parts i) exprs) scope := by
  match exprs with
  | [] => exact L.wrongArity _ _
  | [operand] =>
    simp only [Operand.ofExprs, Form.runNonEmpty]
    refine L.bind (h operand (by simp)).run fun m _ value hvalue => ?_
    split
    · next head tail =>
      have hitems := L.good_list.mp hvalue
      exact L.returns ⟨hitems head (List.mem_cons_self ..),
        fun item hmem => hitems item (List.mem_cons_of_mem _ hmem)⟩
    · exact L.fail _
  | first :: second :: more =>
    simp only [Operand.ofExprs, Form.runNonEmpty, List.length_cons, Operand.length_ofExprs]
    exact L.wrongArity _ _

/-- The test for nil is sound. -/
theorem runIsNull_holds {exprs : List Value} (h : ∀ expr ∈ exprs, L.Ready parts n expr) :
    L.Holds n scope L.Good fun i =>
      Form.runIsNull (Operand.ofExprs (parts i) exprs) scope := by
  match exprs with
  | [] => exact L.wrongArity _ _
  | [operand] =>
    simp only [Operand.ofExprs, Form.runIsNull]
    exact L.map (h operand (by simp)).run fun _ value _ => L.good_data (.bool _)
  | first :: second :: more =>
    simp only [Operand.ofExprs, Form.runIsNull, List.length_cons, Operand.length_ofExprs]
    exact L.wrongArity _ _

/-- The test for equality is sound. -/
theorem runEquals_holds {exprs : List Value} (h : ∀ expr ∈ exprs, L.Ready parts n expr) :
    L.Holds n scope L.Good fun i =>
      Form.runEquals (Operand.ofExprs (parts i) exprs) scope := by
  match exprs with
  | [] => exact L.wrongArity _ _
  | [_] => exact L.wrongArity _ 1
  | [left, right] =>
    simp only [Operand.ofExprs, Form.runEquals]
    refine L.bind (h left (by simp)).run fun m hm leftValue _ => ?_
    exact L.map ((h right (by simp)).mono hm).run fun _ rightValue _ => L.good_data (.bool _)
  | first :: second :: third :: more =>
    simp only [Operand.ofExprs, Form.runEquals, List.length_cons, Operand.length_ofExprs]
    exact L.wrongArity _ _

/-- The structural match is sound; it evaluates nothing. -/
theorem runMatch_holds {exprs : List Value} :
    L.Holds n scope L.Good fun i => Form.runMatch (Operand.ofExprs (parts i) exprs) := by
  match exprs with
  | [] => exact L.wrongArity _ _
  | [_] => exact L.wrongArity _ 1
  | [formals, actuals] =>
    simp only [Operand.ofExprs, Form.runMatch, Operand.expr_ofExpr]
    split
    · exact L.returns (L.good_data (.bool _))
    · exact L.fail _
  | first :: second :: third :: more =>
    simp only [Operand.ofExprs, Form.runMatch, List.length_cons, Operand.length_ofExprs]
    exact L.wrongArity _ _

/-- Making a range is sound. -/
theorem runRange_holds {exprs : List Value} (h : ∀ expr ∈ exprs, L.Ready parts n expr) :
    L.Holds n scope L.Good fun i =>
      Form.runRange (Operand.ofExprs (parts i) exprs) scope := by
  simp only [Form.runRange, Operand.length_ofExprs]
  refine L.bind (runAll_holds h) fun m _ values _ => ?_
  split
  · exact L.returns (L.good_data (.range ..))
  · exact L.returns (L.good_data (.range ..))
  · exact L.fail _
  · exact L.fail _
  · exact L.fail _

/-- Every form is sound. -/
theorem form_holds (hlower : L.LevelHolds lower) (form : Form) {exprs : List Value}
    (h : ∀ expr ∈ exprs, L.Ready parts n expr) :
    L.Holds n scope L.Good fun i =>
      form.run (L.stage lower i) (Operand.ofExprs (parts i) exprs) scope := by
  cases form with
  | define => exact runDefine_holds h
  | lambda => exact runLambda_holds fun expr hmem => (h expr hmem).good
  | apply => exact runApply_holds hlower h
  | choose => exact runChoose_holds h
  | sequence => exact runSequence_holds h
  | bindLocal => exact runBindLocal_holds h
  | cons => exact runCons_holds h
  | firstItem => exact L.map (runNonEmpty_holds "car" h) fun _ found hfound => hfound.1
  | otherItems =>
    exact L.map (runNonEmpty_holds "cdr" h) fun _ found hfound => L.good_list.mpr hfound.2
  | list => exact L.map (runAll_holds h) fun _ values hvalues => L.good_list.mpr hvalues
  | isNull => exact runIsNull_holds h
  | equals => exact runEquals_holds h
  | matchShape => exact runMatch_holds
  | range => exact runRange_holds h

/-! ### Lists and expressions -/

/-- A call of a name is sound. -/
theorem call_holds (hlower : L.LevelHolds lower) {name : String} {exprs : List Value}
    (hname : L.Good n (.sym name)) (h : ∀ expr ∈ exprs, L.Ready parts n expr) :
    L.Holds n scope L.Good fun i =>
      (L.stage lower i).call name (Operand.ofExprs (parts i) exprs) scope := by
  simp only [Stage.call, Operand.exprs_ofExprs]
  refine L.bind (L.lookup hname) fun m hm binding hbinding => ?_
  split
  · refine L.bind (L.emit _) fun k hk _ _ => ?_
    refine applyResolved_holds hlower name (L.good_mono hk hbinding) fun expr hmem => ?_
    exact L.good_mono (Nat.le_trans hm hk) (h expr hmem).good
  · refine L.bind (runAll_holds fun expr hmem => (h expr hmem).mono hm) fun k hk args hargs => ?_
    exact dispatch_holds hlower (L.good_mono (Nat.le_trans hm hk) hname) hargs

/-- A computed value is applied soundly. -/
theorem applyComputed_holds (hlower : L.LevelHolds lower) {head : Value} {exprs : List Value}
    (hhead : L.Good n head) (h : ∀ expr ∈ exprs, L.Ready parts n expr) :
    L.Holds n scope L.Good fun i =>
      (L.stage lower i).applyComputed head (Operand.ofExprs (parts i) exprs) scope := by
  have hempty : ∀ i, (Operand.ofExprs (parts i) exprs).isEmpty = exprs.isEmpty := fun i => by
    rw [Operand.ofExprs_eq_map, List.isEmpty_map]
  simp only [Stage.applyComputed, hempty]
  split
  · refine L.bind (runAll_holds h) fun m hm args hargs => ?_
    exact applyCallable_holds hlower (L.good_mono hm hhead) hargs
  · split
    · exact L.bind (runAll_holds h) fun m hm args hargs => applyOperator_holds hlower head hargs
    · split
      · exact L.returns hhead
      · exact runSequence_holds h

/-- The evaluation of a list is sound. -/
theorem runList_holds (hlower : L.LevelHolds lower) {items : List Value}
    (h : ∀ item ∈ items, L.Ready parts n item) :
    L.Holds n scope L.Good fun i =>
      (L.stage lower i).runList (Operand.ofExprs (parts i) items) scope := by
  cases items with
  | nil => exact L.returns (L.good_data .nil)
  | cons operator operands =>
    have hoperator := h operator (List.mem_cons_self ..)
    have hoperands : ∀ operand ∈ operands, L.Ready parts n operand := fun operand hmem =>
      h operand (List.mem_cons_of_mem _ hmem)
    have hsequence : L.Holds n scope L.Good fun i =>
        Operand.runSequence scope (Operand.ofExprs (parts i) (operator :: operands)) :=
      runSequence_holds h
    simp only [Operand.ofExprs] at hsequence
    simp only [Operand.ofExprs, Stage.runList, Operand.expr_ofExpr, Operand.length_ofExprs]
    cases operator with
    | sym name =>
      dsimp only
      cases Form.ofName? name with
      | some form =>
        refine L.bind (L.checkArity _ _) fun m hm _ _ => ?_
        exact form_holds hlower form fun operand hmem => (hoperands operand hmem).mono hm
      | none => exact call_holds hlower hoperator.good hoperands
    | list inner =>
      refine L.bind hoperator.run fun m hm head hhead => ?_
      exact applyComputed_holds hlower hhead fun operand hmem => (hoperands operand hmem).mono hm
    | range | regex | json | pointer | builtin | closure =>
      exact applyComputed_holds hlower hoperator.good hoperands
    | nil | bool | num | str | quoted => exact hsequence

/-- One step of an evaluation is sound when the evaluation of the parts and the lower levels
are. -/
theorem unfold_holds (hlower : L.LevelHolds lower) {expr : Value} (hexpr : L.Good n expr)
    (hparts : ∀ part, part.Inside expr → ∀ m, n ≤ m → L.Good m part →
      ∀ inner, L.Holds m inner L.Good fun i => parts i part inner) :
    L.Holds n scope L.Good fun i => (L.stage lower i).unfold (parts i) expr scope := by
  cases expr with
  | list items =>
    have hready : ∀ item ∈ items, L.Ready parts n item := fun item hmem =>
      { good := L.good_list.mp hexpr item hmem
        runs := fun part hpart => by
          apply hparts
          rcases hpart with rfl | hinside
          · exact .item hmem
          · exact hinside.trans (.item hmem) }
    exact L.context _ (runList_holds hlower hready)
  | quoted inner =>
    have hinner := L.good_quoted hexpr
    cases inner with
    | list items =>
      have hready : ∀ item ∈ items, L.Ready parts n item := fun item hmem =>
        { good := L.good_list.mp hinner item hmem
          runs := fun part hpart => by
            apply hparts
            rcases hpart with rfl | hinside
            · exact .trans (.item hmem) (.inner _)
            · exact hinside.trans (.trans (.item hmem) (.inner _)) }
      exact L.map (runAll_holds hready) fun _ values hvalues => L.good_list.mpr hvalues
    | _ => exact L.returns hinner
  | sym name => exact resolve_holds hlower hexpr
  | _ => exact L.returns hexpr

/-- The evaluation of an expression is sound when the lower levels are. -/
theorem evaluate_holds (hlower : L.LevelHolds lower) {expr : Value} (hexpr : L.Good n expr) :
    L.Holds n scope L.Good fun i => (L.stage lower i).evaluate expr scope := by
  -- the induction is on the size of the expression; parts are smaller
  induction hsize : sizeOf expr using Nat.strongRecOn generalizing expr n scope with
  | ind size ih =>
    simp only [fun i => Stage.evaluate_eq_unfold (L.stage lower i) expr scope]
    refine unfold_holds hlower hexpr fun part hinside m hm hpart inner => ?_
    exact ih (sizeOf part) (hsize ▸ hinside.sizeOf_lt) hpart rfl

/-- A level is sound when the level below it is. -/
theorem nextLevel_holds (hlower : L.LevelHolds lower) :
    L.LevelHolds fun i =>
      { body := (L.stage lower i).evaluate
        follow := fun name target args scope => do
          Run.emit (.aliasFollowed name target)
          (L.stage lower i).dispatch target args scope
        resolve := (L.stage lower i).resolve } where
  body hexpr := evaluate_holds hlower hexpr
  follow htarget hargs := L.bind (L.emit _) fun _ hm _ _ =>
    dispatch_holds hlower (L.good_mono hm htarget) (hargs.mono hm)
  resolve hname := resolve_holds hlower hname

/-- On the innermost level nothing can be done, which is sound. -/
theorem exhausted_holds : L.LevelHolds fun i => (L.interpreter i).level 0 where
  body _ := L.fail _
  follow _ _ := L.fail _
  resolve _ := L.fail _

/-- Every level is sound. -/
theorem level_holds (left : Nat) : L.LevelHolds fun i => (L.interpreter i).level left := by
  induction left with
  | zero => exact exhausted_holds
  | succ left ih =>
    simp only [Interpreter.level_succ]
    exact nextLevel_holds ih

/-- A logic holds of every evaluation. -/
theorem evalAt_holds (depth : Nat) {expr : Value} (hexpr : L.Good n expr) :
    L.Holds n scope L.Good fun i => (L.interpreter i).evalAt depth expr scope :=
  (level_holds _).body hexpr

end RunLogic

end ShapeLisp
