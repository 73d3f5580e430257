import ShapeLisp.Eval.Operators
import ShapeLisp.Proofs.Keyed
import ShapeLisp.Regex.Engine

/-!
# JSON literals as operators

A JSON literal that is applied to values goes through them with one document that it changes as it
goes. What it computes can be said without a changing document: each string is looked up in the
literal merged with the JSON literals that stand before it. Merging is a shallow update, and several
merges may be grouped in any way.
-/

namespace ShapeLisp

/-! ### Merging -/

namespace Json

/-- Merged objects have the document of the second under each of its keys, and that of the first
under all others. -/
theorem merge_obj_find? (target : Keyed Json) {source : Keyed Json} (hsource : source.Sorted) :
    ∃ members, (obj target).merge (obj source) = obj members ∧
      ∀ key, Keyed.find? members key = (Keyed.find? source key).or (Keyed.find? target key) :=
  ⟨_, rfl, Keyed.find?_insertAll hsource target⟩

/-- Merges of objects may be grouped in any way. -/
theorem merge_obj_assoc {first second third : Keyed Json} (hfirst : first.Sorted)
    (hsecond : second.Sorted) (hthird : third.Sorted) :
    ((obj first).merge (obj second)).merge (obj third) =
      (obj first).merge ((obj second).merge (obj third)) :=
  congrArg obj (Keyed.insertAll_insertAll hfirst hsecond hthird)

/-- Merges of arrays may be grouped in any way. -/
theorem merge_arr_assoc (first second third : List Json) :
    ((arr first).merge (arr second)).merge (arr third) =
      (arr first).merge ((arr second).merge (arr third)) :=
  congrArg arr (List.append_assoc first second third)

end Json

section AnyEngine

variable [Regex.Engine]

namespace Operators

/-! ### The document at a position -/

/-- The document of a JSON literal. -/
def literal? : Value → Option Json
  | .json document => some document
  | _ => none

/-- The path that a string stands for. -/
def path? : Value → Option String
  | .str path => some path
  | _ => none

/-- The document merged with the JSON literals among some values, one after the other. -/
def mergedWith (document : Json) (args : List Value) : Json :=
  (args.filterMap literal?).foldl Json.merge document

/-- What a path leads to in a document, the null value where it leads nowhere. -/
def lookedUp (document : Json) (path : String) : Value :=
  ((document.pointer? (Value.normalizePath path).toList).map Value.ofJson).getD .nil

/-- What the strings among some values lead to, each in the document merged with the JSON literals
before it. -/
def lookupsIn (document : Json) (args : List Value) : List Value :=
  (List.range args.length).filterMap fun i =>
    (args[i]?.bind path?).map (lookedUp (mergedWith document (args.take i)))

/-- A first value comes before all positions of the others. -/
theorem lookupsIn_cons (document : Json) (arg : Value) (rest : List Value) :
    lookupsIn document (arg :: rest) =
      ((path? arg).map (lookedUp document)).toList ++
        lookupsIn (mergedWith document [arg]) rest := by
  have hmerged : ∀ i, mergedWith document ((arg :: rest).take (i + 1)) =
      mergedWith (mergedWith document [arg]) (rest.take i) := by
    intro i
    rw [List.take_succ_cons, ← List.singleton_append, mergedWith, List.filterMap_append,
      List.foldl_append]
    rfl
  rw [lookupsIn, List.length_cons, List.range_succ_eq_map, List.filterMap_cons, List.filterMap_map,
    lookupsIn]
  simp only [Function.comp_def, Nat.succ_eq_add_one, List.getElem?_cons_succ, hmerged,
    List.getElem?_cons_zero, Option.bind_some, List.take_zero]
  cases path? arg with
  | none => rfl
  | some path => rfl

/-- A JSON literal is merged into the document where the kinds agree, before the other values are
gone through. -/
theorem observe_json (document other : Json) (rest : List Value) :
    (observe document (.json other :: rest)).document =
        (observe (document.merge other) rest).document ∧
      (observe document (.json other :: rest)).lookups =
        (observe (document.merge other) rest).lookups := by
  rw [observe, Json.merge]
  cases document.merge? other with
  | none => exact ⟨rfl, rfl⟩
  | some merged => exact ⟨rfl, rfl⟩

/-- Going through the values gives the document with all merges and, for each string, what it leads
to in the document at its position. -/
theorem observe_eq (document : Json) (args : List Value) :
    (observe document args).document = mergedWith document args ∧
      (observe document args).lookups = lookupsIn document args := by
  induction args generalizing document with
  | nil => exact ⟨rfl, rfl⟩
  | cons arg rest ih =>
    rw [lookupsIn_cons]
    cases arg with
    | str path =>
      obtain ⟨hdocument, hlookups⟩ := ih document
      exact ⟨hdocument, congrArg (lookedUp document path :: ·) hlookups⟩
    | json other =>
      obtain ⟨hdocument, hlookups⟩ := observe_json document other rest
      rw [hdocument, hlookups]
      exact ih (document.merge other)
    | _ => exact ih document

/-- Something is looked up exactly when there is a string. -/
theorem lookupsIn_eq_nil_iff (document : Json) (args : List Value) :
    lookupsIn document args = [] ↔ ∀ path, .str path ∉ args := by
  induction args generalizing document with
  | nil => simp [lookupsIn]
  | cons arg rest ih =>
    rw [lookupsIn_cons, List.append_eq_nil_iff, ih]
    cases arg with
    | str path =>
      refine ⟨fun h => absurd h.1 (List.cons_ne_nil _ _), fun h => ?_⟩
      exact absurd List.mem_cons_self (h path)
    | _ => simp [path?]

/-- Values that are neither strings nor JSON literals have no effect. -/
theorem observe_filter (document : Json) (args : List Value) :
    observe document (args.filter fun arg => (path? arg).isSome || (literal? arg).isSome) =
      observe document args := by
  induction args generalizing document with
  | nil => rfl
  | cons arg rest ih =>
    cases arg with
    | str path => rw [List.filter_cons_of_pos rfl, observe, observe, ih]
    | json other =>
      rw [List.filter_cons_of_pos rfl, observe, observe, ih]
      cases document.merge? other with
      | none => rfl
      | some merged => exact ih merged
    | _ => exact ih document

/-- A JSON literal applied to values is a left fold of merges that is observed by lookups. If there
is a string among the values the result is the list of what each string leads to in the document as
merged with the JSON literals before it; otherwise it is the document with all merges. Other values
have no effect, neither on the result nor on the events. Merges of three objects or of three arrays
may be grouped either way, and a merged object has under each key the document of the source, or
that of the target where the source has none. -/
theorem json_operator_folds :
    (∀ (document : Json) (args : List Value),
      ((∃ path, .str path ∈ args) →
        (applyJson document args).1 = .list (lookupsIn document args)) ∧
      ((∀ path, .str path ∉ args) →
        (applyJson document args).1 = .json (mergedWith document args)) ∧
      applyJson document (args.filter fun arg => (path? arg).isSome || (literal? arg).isSome) =
        applyJson document args) ∧
    (∀ first second third : Keyed Json, first.Sorted → second.Sorted → third.Sorted →
      ((Json.obj first).merge (.obj second)).merge (.obj third) =
        (Json.obj first).merge ((Json.obj second).merge (.obj third))) ∧
    (∀ first second third : List Json,
      ((Json.arr first).merge (.arr second)).merge (.arr third) =
        (Json.arr first).merge ((Json.arr second).merge (.arr third))) ∧
    ∀ target source : Keyed Json, source.Sorted →
      ∃ members, (Json.obj target).merge (.obj source) = .obj members ∧
        ∀ key, Keyed.find? members key = (Keyed.find? source key).or (Keyed.find? target key) := by
  refine ⟨fun document args => ?_, fun _ _ _ hfirst hsecond hthird =>
    Json.merge_obj_assoc hfirst hsecond hthird, Json.merge_arr_assoc, fun target _ hsource =>
    Json.merge_obj_find? target hsource⟩
  obtain ⟨hdocument, hlookups⟩ := observe_eq document args
  refine ⟨fun hsome => ?_, fun hnone => ?_, ?_⟩
  · have hne : lookupsIn document args ≠ [] := by
      intro hnil
      obtain ⟨path, hmem⟩ := hsome
      exact (lookupsIn_eq_nil_iff document args).mp hnil path hmem
    rw [applyJson, hlookups, if_neg (by rwa [List.isEmpty_iff])]
  · have hnil := (lookupsIn_eq_nil_iff document args).mpr hnone
    rw [applyJson, hlookups, hdocument, hnil]
    rfl
  · rw [applyJson, observe_filter]
    rfl

end Operators

end AnyEngine

namespace Operators

/-- A lookup between two merges sees the first of them and not the second, and three objects with a
common key merge to the same whichever two are merged first. -/
theorem json_operator_folds_between_merges :
    (applyJson (.obj []) [.json (.obj [("a", .int 1)]), .num 5, .str "a",
        .json (.obj [("a", .int 2)])]).1 = .list [.num (Float.ofInt 1)] ∧
      ((Json.obj [("a", .int 1)]).merge (.obj [("a", .int 2)])).merge (.obj [("b", .null)]) =
        (Json.obj [("a", .int 1)]).merge
          ((Json.obj [("a", .int 2)]).merge (.obj [("b", .null)])) := by
  have hsorted : ∀ (key : String) (document : Json), Keyed.Sorted [(key, document)] :=
    fun key document => List.pairwise_singleton _ key
  refine ⟨?_, json_operator_folds.2.1 _ _ _ (hsorted _ _) (hsorted _ _) (hsorted _ _)⟩
  rw [(json_operator_folds.1 _ _).1 ⟨"a", by simp⟩]
  rfl

end Operators

end ShapeLisp
