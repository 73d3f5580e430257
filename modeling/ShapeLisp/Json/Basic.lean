import ShapeLisp.Keyed
import ShapeLisp.Number.Binary64

/-!
# JSON documents

A document is a null, a truth value, a number, a text, an array or an object. Numbers come in two
kinds that are never equal to each other: integers of the 64-bit ranges and floating point
numbers. The members of an object are kept in the order of their keys, each key once.
-/

namespace ShapeLisp

/-- A JSON document. -/
inductive Json where
  /-- The null document. -/
  | null
  /-- A truth value. -/
  | bool (value : Bool)
  /-- An integer. -/
  | int (value : Int)
  /-- A floating point number. -/
  | float (value : Float)
  /-- A text. -/
  | str (text : String)
  /-- An array of documents. -/
  | arr (items : List Json)
  /-- An object: its members in increasing order of their keys. -/
  | obj (members : List (String × Json))
  deriving Inhabited

namespace Json

mutual

/-- Equality of documents. Integers equal integers, floating point numbers are compared as
numbers, and objects are equal when they have equal documents under the same keys. -/
def beq : Json → Json → Bool
  | .null, .null => true
  | .bool a, .bool b => a == b
  | .int a, .int b => a == b
  | .float a, .float b => a == b
  | .str a, .str b => a == b
  | .arr a, .arr b => beqItems a b
  | .obj a, .obj b => beqMembers a b
  | _, _ => false

/-- Equality of arrays, item by item. -/
def beqItems : List Json → List Json → Bool
  | [], [] => true
  | a :: as, b :: bs => beq a b && beqItems as bs
  | _, _ => false

/-- Equality of members, key by key. -/
def beqMembers : List (String × Json) → List (String × Json) → Bool
  | [], [] => true
  | (k, a) :: as, (l, b) :: bs => k == l && beq a b && beqMembers as bs
  | _, _ => false

end

instance : BEq Json := ⟨beq⟩

/-- A number as a document: an integer when it is one of magnitude at most `exactLimit`, null when
it is not finite, and a floating point number otherwise. -/
def ofNumber (x : Float) : Json :=
  match Number.exactInteger? x with
  | some n => .int n
  | none => if x.isFinite then .float x else .null

/-! ### Merging

Two objects merge member by member, the second winning where both have a key. Two arrays merge by
concatenation. Documents of different kinds, or of any other kind, do not merge.
-/

/-- The second document merged into the first, none when they are not the same kind of container.
Members are taken as they are, without merging their documents. -/
def merge? : Json → Json → Option Json
  | .obj target, .obj source => some (.obj (Keyed.insertAll target source))
  | .arr target, .arr source => some (.arr (target ++ source))
  | _, _ => none

/-- The second document merged into the first where that is possible, else the first. -/
def merge (target source : Json) : Json :=
  (target.merge? source).getD target

end Json

end ShapeLisp
