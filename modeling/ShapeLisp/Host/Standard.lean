import ShapeLisp.Host.Operation
import ShapeLisp.Value.Json
import ShapeLisp.Number.Numeral
import ShapeLisp.Text.CodePoints

/-!
# Standard functions

The functions that every global scope starts with: arithmetic, predicates, conversions, logging,
waiting and selecting by pointer.
-/

namespace ShapeLisp.Standard

open ShapeLisp.Number

variable [Regex.Engine]

/-- Adds the numbers to a sum. -/
def addNumbers : Float → List Value → Except Error Value
  | sum, [] => .ok (.num sum)
  | sum, .num x :: rest => addNumbers (sum + x) rest
  | _, other :: _ => .error (.of (.expected "number" other))

/-- Whether a value is a string. -/
def isString : Value → Bool
  | .str _ => true
  | _ => false

/-- The sum of numbers, or the plain texts joined when one argument is a string. -/
def add (args : List Value) : Reply :=
  if args.any isString then .value (.str (String.join (args.map Value.plain)))
  else .ofResult (addNumbers 0.0 args)

/-- The first number less the others; a lone number is negated. -/
def subtract : List Float → Float
  | [] => 0.0
  | [x] => -x
  | first :: rest => rest.foldl (· - ·) first

/-- The product of numbers. -/
def multiply (args : List Float) : Float :=
  args.foldl (· * ·) 1.0

/-- Divides by a number that is not zero. -/
def divideBy (x y : Float) : Except Error Float :=
  if y == 0.0 then .error (.of .divisionByZero) else .ok (x / y)

/-- The first number divided by the others; a lone number is inverted. -/
def divide : List Float → Except Error Float
  | [] => .ok 1.0
  | [x] => divideBy 1.0 x
  | first :: rest => rest.foldlM divideBy first

/-- How many parts a value has. -/
def size : Value → Nat
  | .list items => items.length
  | .str text => text.length
  | .json (.arr items) => items.length
  | .json (.obj members) => members.length
  | _ => 0

/-- A truth value as a number. -/
def boolNumber (value : Bool) : Float :=
  if value then 1.0 else 0.0

/-- The integer of a number, a truth value, or the digits at the start of a text. -/
def toInteger : Value → Except Error Float
  | .num x => .ok (truncate x)
  | .bool value => .ok (boolNumber value)
  | .str text =>
    match leadingInteger? (Text.trimStart text.toList) with
    | some x => .ok x
    | none => .error (.of (.notAnInteger (.str text)))
  | other => .error (.of (.notAnInteger other))

/-- The number of a number, a truth value or a text. -/
def toNumber : Value → Except Error Float
  | .num x => .ok x
  | .bool value => .ok (boolNumber value)
  | .str text =>
    match ofText? (Text.trim text.toList) with
    | some x => .ok x
    | none => .error (.of (.notANumber (.str text)))
  | other => .error (.of (.notANumber other))

/-- The truth value of a value; a text is true when it is the word. -/
def toBool : Value → Bool
  | .str text => text == "true"
  | other => other.isTruthy

/-- The plain texts of values with a space between them. -/
def joinPlain (args : List Value) : String :=
  " ".intercalate (args.map Value.plain)

/-- The whole milliseconds of a delay, a fraction counting as one. -/
def wholeMillis (millis : Float) : Nat :=
  let size := magnitude millis
  if size.isWhole then size.whole else size.whole + 1

/-- The least number of seconds that no delay can have. -/
def delayLimit : Float := 18446744073709551616.0

/-- Lets time pass. -/
def wait : List Value → Reply
  | [.num millis] =>
    if 0.0 ≤ millis && millis.isFinite then
      if delayLimit ≤ millis / 1000.0 then .fail (.of (.delayTooLong millis))
      else ⟨[.waiting millis, .passed (wholeMillis millis)], .ok .nil⟩
    else .fail (.of (.expected "non-negative number" (.num millis)))
  | [other] => .fail (.of (.expected "non-negative number" other))
  | args => .fail ((Arity.exact 1).error args.length)

/-- What an unevaluated argument of a selection stands for: a symbol is looked up and a quoted
expression loses its quote. -/
def resolve (lookup : String → Except Error Value) : Value → Except Error Value
  | .sym name => lookup name
  | value => .ok value.unquoted

/-- The part of a value that a pointer leads to, nil when there is none. -/
def selectFrom (lookup : String → Except Error Value) (pointer value : Value) :
    Except Error Value := do
  let path ← match ← resolve lookup pointer with
    | .pointer path => .ok path
    | .str path => .ok (Value.normalizePath path)
    | other => .error (.of (.expected "pointer or string" other))
  match ← resolve lookup value with
  | .json document => return (Value.navigate? path (.json document)).getD .nil
  | .list items => return (Value.navigate? path (.list items)).getD .nil
  | other => .error (.of (.selectFromAtom other))

/-- Selects by a pointer, both arguments as they are written. -/
def select : Operation := fun lookup args =>
  match args with
  | pointer :: value :: _ => .ofResult (selectFrom lookup pointer value)
  | _ => .fail (.of .selectNeedsTwo)

/-- A number as the answer. -/
def number (x : Float) : Reply := .value (.num x)

/-- A truth value as the answer. -/
def truth (value : Bool) : Reply := .value (.bool value)

/-- A number or an error as the answer. -/
def numberResult (result : Except Error Float) : Reply := .ofResult (result.map .num)

/-- A function with default options. -/
def function (name : String) (arity : Arity) (operation : Operation) : Registration :=
  ⟨name, {}, .checked arity operation⟩

/-- The standard functions. -/
def host : Host :=
  [function "+" .any (.variadic .any [] .any add),
   function "-" .any (.variadic .any [] .number fun args => number (subtract args)),
   function "*" .any (.variadic .any [] .number fun args => number (multiply args)),
   function "/" .any (.variadic .any [] .number fun args => numberResult (divide args)),
   function "list?" (.exact 1) (.typed [.value] fun value => truth value.items?.isSome),
   function "equal?" (.exact 2) (.typed [.value, .value] fun a b => truth (a == b)),
   function "nil?" (.exact 1) (.typed [.value] fun value => truth value.isNil),
   function "len" (.exact 1) (.typed [.value] fun value => number (Float.ofNat (size value))),
   function "wait" (.exact 1) (.plain wait),
   function "log" .any
     (.variadic .any [] .any fun args => ⟨[.logged (joinPlain args)], .ok .nil⟩),
   function "to_i" (.exact 1) (.typed [.value] fun value => numberResult (toInteger value)),
   function "to_f" (.exact 1) (.typed [.value] fun value => numberResult (toNumber value)),
   function "to_b" (.exact 1) (.typed [.value] fun value => truth (toBool value)),
   function "to_s" .any (.variadic .any [] .any fun args => .value (.str (joinPlain args))),
   { function "select" (.exact 2) select with options := ⟨true, false⟩ }]

/-- The words bound as constants. -/
def constants : List (String × Value) :=
  [("true", .bool true), ("false", .bool false), ("nil", .nil)]

/-- A store whose only scope binds the standard functions and constants, and that scope. -/
def globalStore : ScopeId × Store :=
  let (root, store) := Store.empty.addRoot
  let store := host.register root store
  (root, constants.foldl (fun store (name, value) => store.bind root name ⟨value, {}⟩) store)

end ShapeLisp.Standard
