import ShapeLisp.Value.Basic

/-!
# The parts of a value

A value has parts at any depth: the items of its lists, what its quotation marks stand before, and
the parameters and bodies of its closures. What holds everywhere in a value holds of the value
itself and everywhere in its immediate parts.
-/

namespace ShapeLisp.Value

variable [Regex.Engine]

/-- A part of a value at any depth, the value itself and the parts of a closure included. -/
inductive Within : Value → Value → Prop where
  /-- The value itself. -/
  | self (value : Value) : Within value value
  /-- A part of an item of a list. -/
  | item {part item : Value} {items : List Value} : item ∈ items → Within part item →
    Within part (.list items)
  /-- A part of what stands after a quotation mark. -/
  | inner {part inner : Value} : Within part inner → Within part (.quoted inner)
  /-- A part of a parameter of a closure. -/
  | param {part param body : Value} {params : List Value} {rest : Option String}
    {scope : ScopeId} : param ∈ params → Within part param →
    Within part (.closure params rest body scope)
  /-- A part of the body of a closure. -/
  | body {part body : Value} {params : List Value} {rest : Option String} {scope : ScopeId} :
    Within part body → Within part (.closure params rest body scope)

/-- A condition holds of every part of a value. -/
abbrev Everywhere (P : Value → Prop) (value : Value) : Prop :=
  ∀ part : Value, part.Within value → P part

variable {P : Value → Prop}

/-- What holds everywhere in a list. -/
theorem everywhere_list {items : List Value} :
    (Value.list items).Everywhere P ↔ P (.list items) ∧ ∀ item ∈ items, item.Everywhere P := by
  constructor
  · exact fun h => ⟨h _ (.self _), fun item hmem part hpart => h part (.item hmem hpart)⟩
  · rintro ⟨hself, hitems⟩ part (_ | ⟨hmem, hpart⟩)
    · exact hself
    · exact hitems _ hmem part hpart

/-- What holds everywhere in a quotation. -/
theorem everywhere_quoted {inner : Value} :
    (Value.quoted inner).Everywhere P ↔ P (.quoted inner) ∧ inner.Everywhere P := by
  constructor
  · exact fun h => ⟨h _ (.self _), fun part hpart => h part (.inner hpart)⟩
  · rintro ⟨hself, hinner⟩ part (_ | _ | hpart)
    · exact hself
    · exact hinner part hpart

/-- What holds everywhere in a closure. -/
theorem everywhere_closure {params : List Value} {rest : Option String} {body : Value}
    {scope : ScopeId} : (Value.closure params rest body scope).Everywhere P ↔
      P (.closure params rest body scope) ∧ (∀ param ∈ params, param.Everywhere P) ∧
        body.Everywhere P := by
  constructor
  · exact fun h => ⟨h _ (.self _), fun param hmem part hpart => h part (.param hmem hpart),
      fun part hpart => h part (.body hpart)⟩
  · rintro ⟨hself, hparams, hbody⟩ part hpart
    cases hpart with
    | self => exact hself
    | param hmem hpart => exact hparams _ hmem part hpart
    | body hpart => exact hbody part hpart

/-- The value has no parts but itself. -/
def IsSimple : Value → Prop
  | .list _ | .quoted _ | .closure .. => False
  | _ => True

/-- What holds everywhere in a value without parts holds of the value. -/
theorem everywhere_of_isSimple (value : Value) (h : value.IsSimple) :
    value.Everywhere P ↔ P value := by
  refine ⟨fun hpart => hpart value (.self value), fun hself part hpart => ?_⟩
  cases hpart with
  | self => exact hself
  | _ => exact h.elim

end ShapeLisp.Value
