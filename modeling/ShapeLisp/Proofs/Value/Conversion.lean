import ShapeLisp.Proofs.Number.Exact
import ShapeLisp.Proofs.Value.Equality
import ShapeLisp.Value.Json
import ShapeLisp.Regex.Engine

/-!
# Conversion between values and documents

A document becomes a value by unpacking its arrays; its objects stay as they are. Back as a
document it is the same document exactly when its numbers outside of objects are canonical: integers
that are numbers of the language without loss, and floating point numbers that are no such integers.
Any other document is normalised. Its normal form is a different document, but the value of the normal form
equals that of the document, so converting once more changes nothing.

A value has a document unless a function can be reached in it.
-/

namespace ShapeLisp

open ShapeLisp.Number

/-! ### Documents -/

namespace Json

mutual

/-- A document that JSON data can be: its integers have 64 bits, its floating point numbers are
finite, and the members of its objects are in the order of their keys. -/
def WellFormed : Json → Prop
  | .null => True
  | .bool _ => True
  | .int n => -2 ^ 63 ≤ n ∧ n < 2 ^ 64
  | .float x => x.isFinite = true
  | .str _ => True
  | .arr items => WellFormedItems items
  | .obj members => Keyed.Sorted members ∧ WellFormedMembers members

/-- Every item of an array is well-formed. -/
def WellFormedItems : List Json → Prop
  | [] => True
  | item :: rest => WellFormed item ∧ WellFormedItems rest

/-- The document of every member of an object is well-formed. -/
def WellFormedMembers : List (String × Json) → Prop
  | [] => True
  | (_, item) :: rest => WellFormed item ∧ WellFormedMembers rest

end

mutual

/-- Every number that is not inside an object is canonical: an integer up to the exact limit, or a
finite floating point number whose value is no such integer. -/
def Canonical : Json → Prop
  | .int n => n.natAbs ≤ exactLimit
  | .float x => x.isFinite = true ∧ ∀ n : ℤ, toRat x = n → exactLimit < n.natAbs
  | .arr items => CanonicalItems items
  | _ => True

/-- The numbers in every item of an array are canonical. -/
def CanonicalItems : List Json → Prop
  | [] => True
  | item :: rest => Canonical item ∧ CanonicalItems rest

end

mutual

/-- The document with every number that is not inside an object written as a number of the language
would be. -/
def normalized : Json → Json
  | .int n => ofNumber (Float.ofInt n)
  | .float x => ofNumber x
  | .arr items => .arr (normalizedItems items)
  | document => document

/-- The normal forms of the items of an array. -/
def normalizedItems : List Json → List Json
  | [] => []
  | item :: rest => normalized item :: normalizedItems rest

end

mutual

/-- A well-formed document equals itself. -/
theorem WellFormed.beq_self : ∀ {document : Json}, document.WellFormed →
    beq document document = true
  | .null, _ => rfl
  | .bool value, _ => beq_self_eq_true value
  | .int n, _ => beq_self_eq_true n
  | .float x, h => (Same.refl x).beq h
  | .str text, _ => beq_self_eq_true text
  | .arr _, h => WellFormedItems.beq_self h
  | .obj _, h => WellFormedMembers.beq_self h.2

/-- Well-formed items equal themselves. -/
theorem WellFormedItems.beq_self : ∀ {items : List Json}, WellFormedItems items →
    beqItems items items = true
  | [], _ => rfl
  | _ :: _, h => by rw [beqItems, h.1.beq_self, h.2.beq_self, Bool.and_self]

/-- Well-formed members equal themselves. -/
theorem WellFormedMembers.beq_self : ∀ {members : List (String × Json)},
    WellFormedMembers members → beqMembers members members = true
  | [], _ => rfl
  | (key, _) :: _, h => by
    rw [beqMembers, beq_self_eq_true key, h.1.beq_self, h.2.beq_self, Bool.and_self, Bool.and_self]

end

/-- A 64-bit integer is a finite number. -/
theorem WellFormed.isFinite_ofInt {n : ℤ} (h : (Json.int n).WellFormed) :
    (Float.ofInt n).isFinite = true := by
  have hbounds : -2 ^ 63 ≤ n ∧ n < 2 ^ 64 := h
  exact Number.isFinite_ofInt (by omega)

/-- The document of a number is well-formed. -/
theorem wellFormed_ofNumber (x : Float) : (ofNumber x).WellFormed := by
  rw [ofNumber]
  split
  · next n hexact =>
    have hlimit : exactLimit = 2 ^ 53 - 1 := rfl
    have hle := (exactInteger?_eq_some_iff.mp hexact).2.2
    change -2 ^ 63 ≤ n ∧ n < 2 ^ 64
    omega
  · split
    · next hfinite => exact hfinite
    · trivial

/-- An integer is the document of its number when it is canonical. -/
theorem ofNumber_ofInt_eq_iff {n : ℤ} :
    ofNumber (Float.ofInt n) = .int n ↔ n.natAbs ≤ exactLimit := by
  constructor
  · intro h
    rw [ofNumber] at h
    split at h
    · next m hexact =>
      rw [← int.inj h]
      exact (exactInteger?_eq_some_iff.mp hexact).2.2
    · split at h <;> cases h
  · intro h
    rw [ofNumber, exactInteger?_ofInt h]

/-- A floating point number is the document of its number when it is canonical. -/
theorem ofNumber_eq_float_iff {x : Float} :
    ofNumber x = .float x ↔
      x.isFinite = true ∧ ∀ n : ℤ, toRat x = n → exactLimit < n.natAbs := by
  constructor
  · intro h
    rw [ofNumber] at h
    split at h
    · cases h
    · next hexact =>
      split at h
      · next hfinite => exact ⟨hfinite, (exactInteger?_eq_none_iff hfinite).mp hexact⟩
      · cases h
  · rintro ⟨hfinite, hvalue⟩
    rw [ofNumber, (exactInteger?_eq_none_iff hfinite).mpr hvalue]
    exact if_pos hfinite

mutual

/-- A document is its own normal form exactly when it is canonical. -/
theorem normalized_eq_iff : ∀ (document : Json), document.normalized = document ↔ document.Canonical
  | .int _ => ofNumber_ofInt_eq_iff
  | .float _ => ofNumber_eq_float_iff
  | .arr items => by
    rw [normalized, arr.injEq, Canonical]
    exact normalizedItems_eq_iff items
  | .null | .bool _ | .str _ | .obj _ => by simp [normalized, Canonical]

/-- Items are their own normal forms exactly when they are canonical. -/
theorem normalizedItems_eq_iff : ∀ (items : List Json),
    normalizedItems items = items ↔ CanonicalItems items
  | [] => by simp [normalizedItems, CanonicalItems]
  | item :: rest => by
    rw [normalizedItems, List.cons.injEq, CanonicalItems, normalized_eq_iff item,
      normalizedItems_eq_iff rest]

end

end Json

/-! ### Values and their documents -/

namespace Value

section AnyEngine

variable [Regex.Engine]

/-- What can be reached in a value through lists and quotation marks, the value itself included. -/
inductive Reachable (part : Value) : Value → Prop where
  /-- The value itself. -/
  | self : Reachable part part
  /-- What can be reached in an item of a list. -/
  | item {value : Value} {items : List Value} (hmem : value ∈ items)
      (h : Reachable part value) : Reachable part (.list items)
  /-- What can be reached behind a quotation mark. -/
  | inner {value : Value} (h : Reachable part value) : Reachable part (.quoted value)

/-- Every JSON literal that can be reached in a value is well-formed. -/
def HoldsDocuments (value : Value) : Prop :=
  ∀ document, Reachable (.json document) value → document.WellFormed

mutual

/-- A value has no document exactly when a function can be reached in it. -/
theorem toJson?_eq_none_iff : ∀ (value : Value),
    value.toJson? = none ↔ ∃ part, Reachable part value ∧ part.isCallable = true
  | .list items => by
    rw [toJson?, Option.map_eq_none_iff, toJsonAll?_eq_none_iff items]
    constructor
    · rintro ⟨item, hmem, part, hpart, hcallable⟩
      exact ⟨part, .item hmem hpart, hcallable⟩
    · rintro ⟨part, hpart, hcallable⟩
      cases hpart with
      | self => cases hcallable
      | item hmem hpart => exact ⟨_, hmem, part, hpart, hcallable⟩
  | .quoted inner => by
    rw [toJson?, toJson?_eq_none_iff inner]
    constructor
    · rintro ⟨part, hpart, hcallable⟩
      exact ⟨part, .inner hpart, hcallable⟩
    · rintro ⟨part, hpart, hcallable⟩
      cases hpart with
      | self => cases hcallable
      | inner hpart => exact ⟨part, hpart, hcallable⟩
  | .builtin id => ⟨fun _ => ⟨.builtin id, .self, rfl⟩, fun _ => rfl⟩
  | .closure params rest body scope =>
    ⟨fun _ => ⟨.closure params rest body scope, .self, rfl⟩, fun _ => rfl⟩
  | .nil | .bool _ | .num _ | .str _ | .sym _ | .range _ _ _ | .regex _ | .json _ | .pointer _ => by
    constructor
    · intro h
      cases h
    · rintro ⟨part, hpart, hcallable⟩
      cases hpart
      cases hcallable

/-- Values do not all have documents exactly when a function can be reached in one of them. -/
theorem toJsonAll?_eq_none_iff : ∀ (items : List Value),
    toJsonAll? items = none ↔
      ∃ item ∈ items, ∃ part, Reachable part item ∧ part.isCallable = true
  | [] => by simp [toJsonAll?]
  | item :: rest => by
    rw [List.exists_mem_cons_iff, ← toJson?_eq_none_iff item, ← toJsonAll?_eq_none_iff rest,
      toJsonAll?]
    cases toJson? item <;> cases toJsonAll? rest <;> simp

end

/-- Documents of several values are the documents of the first and of the others. -/
theorem toJsonAll?_cons_eq_some {item : Value} {rest : List Value} {documents : List Json}
    (h : toJsonAll? (item :: rest) = some documents) :
    ∃ first others, item.toJson? = some first ∧ toJsonAll? rest = some others ∧
      documents = first :: others := by
  rw [toJsonAll?] at h
  split at h
  · next first others hfirst hothers =>
    exact ⟨first, others, hfirst, hothers, (Option.some.inj h).symm⟩
  · cases h

mutual

/-- The document of a value is well-formed when its JSON literals are. -/
theorem HoldsDocuments.wellFormed : ∀ {value : Value} {document : Json}, value.HoldsDocuments →
    value.toJson? = some document → document.WellFormed
  | .list items, document, hholds, h => by
    obtain ⟨documents, hdocuments, rfl⟩ := Option.map_eq_some_iff.mp h
    exact wellFormedItems_of_toJsonAll? (fun item hmem document hreach =>
      hholds document (.item hmem hreach)) hdocuments
  | .quoted inner, document, hholds, h => by
    have hinner : inner.HoldsDocuments := fun document hreach => hholds document (.inner hreach)
    exact hinner.wellFormed h
  | .json inner, document, hholds, h => by
    obtain rfl := Option.some.inj h
    exact hholds inner .self
  | .num x, document, _, h => by
    obtain rfl := Option.some.inj h
    exact Json.wellFormed_ofNumber x
  | .nil, document, _, h | .bool _, document, _, h | .str _, document, _, h
  | .sym _, document, _, h | .range _ _ _, document, _, h | .regex _, document, _, h
  | .pointer _, document, _, h => by
    obtain rfl := Option.some.inj h
    trivial

/-- The documents of several values are well-formed when their JSON literals are. -/
theorem wellFormedItems_of_toJsonAll? : ∀ {items : List Value} {documents : List Json},
    (∀ item ∈ items, item.HoldsDocuments) → toJsonAll? items = some documents →
      Json.WellFormedItems documents
  | [], documents, _, h => by
    obtain rfl := Option.some.inj h
    trivial
  | item :: rest, documents, hholds, h => by
    obtain ⟨first, others, hfirst, hothers, rfl⟩ := toJsonAll?_cons_eq_some h
    exact ⟨(hholds item List.mem_cons_self).wellFormed hfirst,
      wellFormedItems_of_toJsonAll? (fun item hmem => hholds item (List.mem_cons_of_mem _ hmem))
        hothers⟩

end

mutual

/-- The value of a document has the normal form of the document. -/
theorem toJson?_ofJson : ∀ (document : Json), (ofJson document).toJson? = some document.normalized
  | .arr items => by
    rw [ofJson, toJson?, toJsonAll?_ofJsonAll items, Option.map_some, Json.normalized]
  | .null | .bool _ | .int _ | .float _ | .str _ | .obj _ => rfl

/-- The values of documents have their normal forms. -/
theorem toJsonAll?_ofJsonAll : ∀ (documents : List Json),
    toJsonAll? (ofJsonAll documents) = some (Json.normalizedItems documents)
  | [] => rfl
  | document :: rest => by
    rw [ofJsonAll, toJsonAll?, toJson?_ofJson document, toJsonAll?_ofJsonAll rest,
      Json.normalizedItems]

end

/-- A finite number comes back from its document as an equal number. -/
theorem ofJson_ofNumber {x : Float} (hx : x.isFinite = true) :
    (ofJson (Json.ofNumber x) == .num x) = true := by
  rw [Json.ofNumber]
  split
  · next n hexact => exact (same_of_exactInteger? hexact).beq hx
  · rw [if_pos hx]
    exact (Same.refl x).beq hx

mutual

/-- The normal form of a well-formed document stands for an equal value. -/
theorem ofJson_normalized : ∀ {document : Json}, document.WellFormed →
    (ofJson document.normalized == ofJson document) = true
  | .int _, h => ofJson_ofNumber h.isFinite_ofInt
  | .float _, h => ofJson_ofNumber h
  | .arr _, h => ofJsonAll_normalizedItems h
  | .obj _, h => h.beq_self
  | .null, _ => rfl
  | .bool value, _ => beq_self_eq_true value
  | .str text, _ => beq_self_eq_true text

/-- The normal forms of well-formed items stand for equal values. -/
theorem ofJsonAll_normalizedItems : ∀ {items : List Json}, Json.WellFormedItems items →
    beqAll (ofJsonAll (Json.normalizedItems items)) (ofJsonAll items) = true
  | [], _ => rfl
  | _ :: _, h => by
    rw [Json.normalizedItems, ofJsonAll, ofJsonAll, beqAll, ofJsonAll_normalizedItems h.2]
    exact Bool.and_eq_true_iff.mpr ⟨ofJson_normalized h.1, rfl⟩

end

/-- The value of a well-formed document equals itself. -/
theorem ofJson_beq_self {document : Json} (h : document.WellFormed) :
    (ofJson document == ofJson document) = true :=
  BEq.trans (BEq.symm (ofJson_normalized h)) (ofJson_normalized h)

/-- Conversion keeps canonical documents and normalises all others. A document is the document of
its value exactly when each of its numbers outside of objects is canonical. A value has no document
exactly when a function can be reached in it through lists and quotation marks. The value of its
document is a fixed point: converted to a document and back it is an equal value. -/
theorem conversion_normalizes :
    (∀ document : Json, (ofJson document).toJson? = some document ↔ document.Canonical) ∧
      ∀ value : Value,
        (value.toJson? = none ↔ ∃ part, Reachable part value ∧ part.isCallable = true) ∧
        (value.HoldsDocuments → ∀ document, value.toJson? = some document →
          ∃ again, (ofJson document).toJson? = some again ∧
            (ofJson again == ofJson document) = true) := by
  refine ⟨fun document => ?_, fun value => ⟨value.toJson?_eq_none_iff, ?_⟩⟩
  · rw [toJson?_ofJson, Option.some.injEq]
    exact document.normalized_eq_iff
  · intro hholds document hdocument
    exact ⟨document.normalized, toJson?_ofJson document,
      ofJson_normalized (hholds.wellFormed hdocument)⟩

end AnyEngine

/-- An integer that is no number of the language and a negative zero are normalised, and the value
of the document is a fixed point. -/
theorem conversion_normalizes_of_large_integer :
    (ofJson (.arr [.int 9007199254740993, .float (-0.0)])).toJson? ≠
        some (.arr [.int 9007199254740993, .float (-0.0)]) ∧
      (Value.json (.arr [.int 9007199254740993, .float (-0.0)])).HoldsDocuments ∧
      ∃ again, (ofJson (.arr [.int 9007199254740993, .float (-0.0)])).toJson? = some again ∧
        (ofJson again == ofJson (.arr [.int 9007199254740993, .float (-0.0)])) = true := by
  have hlarge : ¬ (Json.arr [.int 9007199254740993, .float (-0.0)]).Canonical := by
    intro h
    have hlimit : (9007199254740993 : ℤ).natAbs ≤ exactLimit := h.1
    exact absurd hlimit (by decide)
  have hholds : (Value.json (.arr [.int 9007199254740993, .float (-0.0)])).HoldsDocuments := by
    intro document hreach
    cases hreach
    have hbounds : (-2) ^ 63 ≤ (9007199254740993 : ℤ) ∧ (9007199254740993 : ℤ) < 2 ^ 64 := by
      decide
    have hfinite : (-0.0 : Float).isFinite = true := by decide +kernel
    exact ⟨hbounds, hfinite, trivial⟩
  exact ⟨mt (conversion_normalizes.1 _).mp hlarge, hholds,
    (conversion_normalizes.2 _).2 hholds _ rfl⟩

end Value

end ShapeLisp
