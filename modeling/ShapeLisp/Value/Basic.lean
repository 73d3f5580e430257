import ShapeLisp.Json.Basic
import ShapeLisp.Regex.Basic

/-!
# Values

Expressions and the results of their evaluation are of one type: a program is data. Closures
remember the scope they were made in by its number, and builtins are known by their name, so a
value is plain data without functions inside.
-/

namespace ShapeLisp

variable [Regex.Engine]

/-- The number of a scope in a store of scopes. -/
abbrev ScopeId := Nat

/-- An expression, or the value of one. -/
inductive Value where
  /-- The null value. -/
  | nil
  /-- A truth value. -/
  | bool (value : Bool)
  /-- A number. -/
  | num (value : Float)
  /-- A string literal. -/
  | str (text : String)
  /-- A name, looked up when it is evaluated. -/
  | sym (name : String)
  /-- A list; as an expression, a call or a sequence. -/
  | list (items : List Value)
  /-- A quoted expression: its head is not called. -/
  | quoted (inner : Value)
  /-- A numeric interval with an optional step. -/
  | range (start stop : Float) (step : Option Float)
  /-- A regular expression. -/
  | regex (literal : Regex)
  /-- A JSON literal. -/
  | json (document : Json)
  /-- A JSON pointer by its path. -/
  | pointer (path : String)
  /-- A function of the host. -/
  | builtin (id : String)
  /-- A function with its parameters, the name of its rest parameter, its body and its scope. -/
  | closure (params : List Value) (rest : Option String) (body : Value) (scope : ScopeId)

instance : Inhabited Value := ⟨.nil⟩

namespace Value

/-- The name of the kind of a value. -/
def typeName : Value → String
  | .nil => "nil"
  | .bool _ => "boolean"
  | .num _ => "number"
  | .str _ => "string"
  | .sym _ => "symbol"
  | .list _ => "list"
  | .quoted _ => "quoted"
  | .range .. => "range"
  | .regex _ => "regex"
  | .json _ => "json"
  | .pointer _ => "pointer"
  | .builtin _ => "builtin"
  | .closure .. => "function"

/-- The null value and the empty list. -/
def isNil : Value → Bool
  | .nil | .list [] => true
  | _ => false

/-- Everything but `false`, the null value and the empty list. -/
def isTruthy : Value → Bool
  | .bool false => false
  | value => !value.isNil

/-- Builtins and closures. -/
def isCallable : Value → Bool
  | .builtin _ | .closure .. => true
  | _ => false

/-- Ranges, regular expressions, JSON literals and pointers: data that can be applied. -/
def isOperator : Value → Bool
  | .range .. | .regex _ | .json _ | .pointer _ => true
  | _ => false

/-- The items of a list. -/
def items? : Value → Option (List Value)
  | .list items => some items
  | _ => none

/-- The text of a string or a symbol. -/
def text? : Value → Option String
  | .str text | .sym text => some text
  | _ => none

/-- The lower and the upper bound of a range, whichever way it was declared. -/
def bounds? : Value → Option (Float × Float)
  | .range start stop _ => some (Number.lesser start stop, Number.greater start stop)
  | _ => none

/-- What stands inside one pair of quotation marks, or the value itself. -/
def unquoted : Value → Value
  | .quoted inner => inner
  | value => value

/-- Whether two numbers, where present, are equal as numbers. -/
def sameStep : Option Float → Option Float → Bool
  | none, none => true
  | some a, some b => a == b
  | _, _ => false

mutual

/-- Equality of values. Ranges are equal when their bounds and steps are, regular expressions when
they are written alike, builtins when they have the same name, and closures when parameters, bodies
and scopes are. -/
def beq : Value → Value → Bool
  | .nil, .nil => true
  | .bool a, .bool b => a == b
  | .num a, .num b => a == b
  | .str a, .str b => a == b
  | .sym a, .sym b => a == b
  | .list as, .list bs => beqAll as bs
  | .quoted a, .quoted b => beq a b
  | .range a b s, .range c d t =>
    Number.lesser a b == Number.lesser c d && Number.greater a b == Number.greater c d &&
      sameStep s t
  | .regex a, .regex b => a == b
  | .json a, .json b => a == b
  | .pointer a, .pointer b => a == b
  | .builtin a, .builtin b => a == b
  | .closure ps _ b s, .closure qs _ c t => beqAll ps qs && beq b c && s == t
  | _, _ => false

/-- Equality of lists of values, item by item. -/
def beqAll : List Value → List Value → Bool
  | [], [] => true
  | a :: as, b :: bs => beq a b && beqAll as bs
  | _, _ => false

end

instance : BEq Value := ⟨beq⟩

end Value

end ShapeLisp
