import ShapeLisp.Proofs.Keyed
import ShapeLisp.Proofs.Value.Conversion
import ShapeLisp.Regex.Engine

/-!
# Navigation in steps

A path may be followed in one go or in steps, at a slash of one's choice. In one go it stays inside
one document. In steps, what the first part leads to becomes a value, and the second part sets out
from the document of that value, which is a normal form of the one before. Both ways find equal
values, or nothing.
-/

namespace ShapeLisp

/-! ### Paths -/

namespace Json

/-- A text has a piece even without slashes. -/
theorem splitSlashes_ne_nil (text : List Char) : splitSlashes text ≠ [] := by
  cases text with
  | nil => exact List.cons_ne_nil _ _
  | cons c rest =>
    rw [splitSlashes]
    split
    · exact List.cons_ne_nil _ _
    · split <;> exact List.cons_ne_nil _ _

/-- A text is split at each of its slashes. -/
theorem splitSlashes_append (first second : List Char) :
    splitSlashes (first ++ '/' :: second) = splitSlashes first ++ splitSlashes second := by
  induction first with
  | nil => rfl
  | cons c rest ih =>
    rw [List.cons_append, splitSlashes, splitSlashes, ih]
    split
    · rfl
    · cases hpieces : splitSlashes rest with
      | nil => exact absurd hpieces (splitSlashes_ne_nil rest)
      | cons piece pieces => rfl

/-- A path that starts with something other than a slash leads nowhere. -/
theorem tokens?_of_ne {c : Char} (hc : c ≠ '/') (rest : List Char) :
    tokens? (c :: rest) = none := by
  rw [tokens?]
  · exact List.cons_ne_nil c rest
  · exact fun more h => hc (List.cons.inj h).1

/-- The tokens of a path that is continued with a slash are its own and those of the rest. -/
theorem tokens?_append (first second : List Char) :
    tokens? (first ++ '/' :: second) =
      (tokens? first).map (· ++ (splitSlashes second).map unescapeToken) := by
  cases first with
  | nil => rfl
  | cons c rest =>
    by_cases hc : c = '/'
    · subst hc
      rw [List.cons_append, tokens?, tokens?, splitSlashes_append, List.map_append, Option.map_some]
    · rw [List.cons_append, tokens?_of_ne hc, tokens?_of_ne hc, Option.map_none]

/-- Tokens are followed one part after the other. -/
theorem follow?_append (document : Json) (first second : List (List Char)) :
    document.follow? (first ++ second) = (document.follow? first).bind (·.follow? second) := by
  induction first generalizing document with
  | nil => rfl
  | cons token rest ih =>
    rw [List.cons_append, follow?, follow?, Option.bind_assoc]
    exact congrArg _ (funext ih)

/-- A path that is continued with a slash is followed one part after the other. -/
theorem pointer?_append (document : Json) (first second : List Char) :
    document.pointer? (first ++ '/' :: second) =
      (document.pointer? first).bind (·.pointer? ('/' :: second)) := by
  rw [pointer?, tokens?_append, pointer?]
  cases tokens? first with
  | none => rfl
  | some tokens => exact follow?_append document tokens _

/-! ### Normal forms -/

/-- Items are normalised one by one. -/
theorem normalizedItems_eq_map (items : List Json) :
    normalizedItems items = items.map normalized := by
  induction items with
  | nil => rfl
  | cons item rest ih => rw [normalizedItems, ih, List.map_cons]

/-- No token leads into the document of a number. -/
theorem member?_ofNumber (x : Float) (token : List Char) : (ofNumber x).member? token = none := by
  rw [ofNumber]
  split
  · rfl
  · split <;> rfl

/-- In a normal form a token leads to the normal form of what it leads to in the document, or, in an
object, to the very same. -/
theorem member?_normalized (document : Json) (token : List Char) :
    document.normalized.member? token = (document.member? token).map normalized ∨
      document.normalized.member? token = document.member? token := by
  cases document with
  | arr items =>
    left
    rw [normalized, normalizedItems_eq_map, member?, member?]
    cases index? token with
    | none => rfl
    | some i => exact List.getElem?_map
  | int n => exact .inr (member?_ofNumber _ token)
  | float x => exact .inr (member?_ofNumber x token)
  | _ => exact .inr rfl

/-- In a normal form tokens lead to the normal form of what they lead to in the document, or to the
very same. -/
theorem follow?_normalized (document : Json) (tokens : List (List Char)) :
    document.normalized.follow? tokens = (document.follow? tokens).map normalized ∨
      document.normalized.follow? tokens = document.follow? tokens := by
  induction tokens generalizing document with
  | nil => exact .inl rfl
  | cons token rest ih =>
    rw [follow?, follow?]
    rcases document.member?_normalized token with hmember | hmember
    · rw [hmember]
      cases document.member? token with
      | none => exact .inl rfl
      | some inner => exact ih inner
    · rw [hmember]
      exact .inr rfl

/-- In a normal form a path leads to the normal form of what it leads to in the document, or to the
very same. -/
theorem pointer?_normalized (document : Json) (path : List Char) :
    document.normalized.pointer? path = (document.pointer? path).map normalized ∨
      document.normalized.pointer? path = document.pointer? path := by
  rw [pointer?, pointer?]
  cases tokens? path with
  | none => exact .inl rfl
  | some tokens => exact document.follow?_normalized tokens

/-! ### What is found -/

/-- All items together are well-formed when each is. -/
theorem wellFormedItems_iff {items : List Json} :
    WellFormedItems items ↔ ∀ item ∈ items, item.WellFormed := by
  induction items with
  | nil => simp [WellFormedItems]
  | cons item rest ih => rw [WellFormedItems, ih, List.forall_mem_cons]

/-- All members together are well-formed when each is. -/
theorem wellFormedMembers_iff {members : List (String × Json)} :
    WellFormedMembers members ↔ ∀ member ∈ members, member.2.WellFormed := by
  induction members with
  | nil => simp [WellFormedMembers]
  | cons member rest ih => rw [WellFormedMembers, ih, List.forall_mem_cons]

/-- What a token leads to in a well-formed document is well-formed. -/
theorem WellFormed.member? {document found : Json} (h : document.WellFormed) {token : List Char}
    (hfound : document.member? token = some found) : found.WellFormed := by
  cases document with
  | arr items =>
    obtain ⟨i, -, hitem⟩ := Option.bind_eq_some_iff.mp hfound
    exact wellFormedItems_iff.mp h found (List.mem_of_getElem? hitem)
  | obj members => exact wellFormedMembers_iff.mp h.2 _ (Keyed.mem_of_find? hfound)
  | _ => cases hfound

/-- What tokens lead to in a well-formed document is well-formed. -/
theorem WellFormed.follow? {document found : Json} (h : document.WellFormed)
    {tokens : List (List Char)} (hfound : document.follow? tokens = some found) :
    found.WellFormed := by
  induction tokens generalizing document with
  | nil => exact Option.some.inj hfound ▸ h
  | cons token rest ih =>
    obtain ⟨inner, hinner, hrest⟩ := Option.bind_eq_some_iff.mp hfound
    exact ih (h.member? hinner) hrest

/-- What a path leads to in a well-formed document is well-formed. -/
theorem WellFormed.pointer? {document found : Json} (h : document.WellFormed) {path : List Char}
    (hfound : document.pointer? path = some found) : found.WellFormed := by
  obtain ⟨tokens, -, htokens⟩ := Option.bind_eq_some_iff.mp hfound
  exact h.follow? htokens

end Json

/-! ### Values -/

namespace Value

section AnyEngine

variable [Regex.Engine]

/-- Both found equal values, or nothing. -/
def FoundAlike : Option Value → Option Value → Prop :=
  Option.Rel fun a b => (a == b) = true

/-- The document that paths lead into: that of a JSON literal or of a list, also behind quotation
marks. -/
def view? : Value → Option Json
  | .quoted inner => view? inner
  | .json document => some document
  | .list items => toJson? (.list items)
  | _ => none

/-- Navigation follows the path in the document and takes the value of what is found. -/
theorem navigate?_eq (path : String) : ∀ (value : Value), navigate? path value =
    value.view?.bind fun document => (document.pointer? path.toList).map ofJson
  | .quoted inner => navigate?_eq path inner
  | .json _ | .list _ | .nil | .bool _ | .num _ | .str _ | .sym _ | .range _ _ _ | .regex _
  | .pointer _ | .builtin _ | .closure _ _ _ _ => rfl

/-- The document that paths lead into is well-formed when the JSON literals of the value are. -/
theorem HoldsDocuments.view? : ∀ {value : Value} {document : Json}, value.HoldsDocuments →
    value.view? = some document → document.WellFormed
  | .quoted inner, document, hholds, h => by
    have hinner : inner.HoldsDocuments := fun document hreach => hholds document (.inner hreach)
    exact hinner.view? h
  | .json inner, document, hholds, h => Option.some.inj h ▸ hholds inner .self
  | .list items, document, hholds, h => hholds.wellFormed h

/-- What is found in a well-formed document is found in its normal form as an equal value. -/
theorem foundAlike_normalized {document : Json} (h : document.WellFormed) (path : List Char) :
    FoundAlike ((document.pointer? path).map ofJson)
      ((document.normalized.pointer? path).map ofJson) := by
  cases hfound : document.pointer? path with
  | none =>
    have hnone : document.normalized.pointer? path = none := by
      rcases document.pointer?_normalized path with hpath | hpath <;> rw [hpath, hfound]
      rfl
    rw [hnone]
    exact .none
  | some found =>
    have hgood := h.pointer? hfound
    rcases document.pointer?_normalized path with hpath | hpath
    · rw [hpath, hfound]
      exact .some (BEq.symm (ofJson_normalized hgood))
    · rw [hpath, hfound]
      exact .some (ofJson_beq_self hgood)

/-- A path of at least one token leads from the value of a well-formed document to what it leads to
in the document. -/
theorem foundAlike_ofJson {document : Json} (h : document.WellFormed) {path : String}
    {rest : List Char} (hpath : path.toList = '/' :: rest) :
    FoundAlike ((document.pointer? path.toList).map ofJson) (navigate? path (ofJson document)) := by
  have hscalar :
      (∀ token, document.member? token = none) → document.pointer? path.toList = none := by
    intro hmember
    obtain ⟨piece, pieces, hpieces⟩ := List.exists_cons_of_ne_nil (Json.splitSlashes_ne_nil rest)
    rw [hpath, Json.pointer?, Json.tokens?, hpieces, List.map_cons, Option.bind_some, Json.follow?,
      hmember, Option.bind_none]
  cases document with
  | arr items =>
    have hview : (ofJson (.arr items)).view? = some (Json.arr items).normalized :=
      toJson?_ofJson (.arr items)
    rw [navigate?_eq, hview]
    exact foundAlike_normalized h path.toList
  | obj members =>
    rw [navigate?_eq]
    change FoundAlike _ (((Json.obj members).pointer? path.toList).map ofJson)
    cases hfound : (Json.obj members).pointer? path.toList with
    | none => exact .none
    | some found => exact .some (ofJson_beq_self (h.pointer? hfound))
  | _ =>
    rw [hscalar fun _ => rfl]
    exact .none

/-- Navigation composes: following a path that is continued with a slash finds the same as following
the path and then, from what was found, the continuation. Both find nothing or equal values. -/
theorem navigation_composes (first second : String) (hsecond : second.toList.head? = some '/')
    (value : Value) (hholds : value.HoldsDocuments) :
    Option.Rel (fun a b => (a == b) = true) (navigate? (first ++ second) value)
      ((navigate? first value).bind (navigate? second)) := by
  obtain ⟨rest, hrest⟩ := List.head?_eq_some_iff.mp hsecond
  rw [navigate?_eq, navigate?_eq first value, String.toList_append, hrest]
  cases hview : value.view? with
  | none => exact .none
  | some document =>
    simp only [Option.bind_some, Json.pointer?_append]
    cases hfound : document.pointer? first.toList with
    | none => exact .none
    | some found =>
      have hgood := (hholds.view? hview).pointer? hfound
      have halike := foundAlike_ofJson hgood hrest
      rw [hrest] at halike
      exact halike

end AnyEngine

/-- Two steps into a quoted list find the negative zero of a document as the other zero. -/
theorem navigation_composes_of_zero :
    (Value.quoted (.list [.json (.arr [.float (-0.0)])])).HoldsDocuments ∧
      navigate? ("/0" ++ "/0") (.quoted (.list [.json (.arr [.float (-0.0)])])) =
        some (.num (-0.0)) ∧
      Option.Rel (fun a b => (a == b) = true)
        (navigate? ("/0" ++ "/0") (.quoted (.list [.json (.arr [.float (-0.0)])])))
        ((navigate? "/0" (.quoted (.list [.json (.arr [.float (-0.0)])]))).bind
          (navigate? "/0")) := by
  have hholds : (Value.quoted (.list [.json (.arr [.float (-0.0)])])).HoldsDocuments := by
    intro document hreach
    cases hreach with
    | inner hlist =>
      cases hlist with
      | item hmem hitem =>
        obtain rfl := List.mem_singleton.mp hmem
        cases hitem
        have hfinite : (-0.0 : Float).isFinite = true := by decide +kernel
        exact ⟨hfinite, trivial⟩
  exact ⟨hholds, rfl, navigation_composes "/0" "/0" rfl _ hholds⟩

end Value

end ShapeLisp
