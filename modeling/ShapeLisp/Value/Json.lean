import ShapeLisp.Value.Display
import ShapeLisp.Json.Pointer

/-!
# Values and JSON documents

Lists become arrays and back. Objects stay JSON literals, strings and symbols become texts, and
ranges, regular expressions and pointers become the texts that they are written as. Functions have
no document.

Pointers also lead into lists, which are looked at as arrays.
-/

namespace ShapeLisp.Value

variable [Regex.Engine]

mutual

/-- The document of a value, none when a function is found in it. -/
def toJson? : Value → Option Json
  | .nil => some .null
  | .bool value => some (.bool value)
  | .num x => some (Json.ofNumber x)
  | .str text => some (.str text)
  | .sym name => some (.str name)
  | .list items => (toJsonAll? items).map .arr
  | .quoted inner => toJson? inner
  | .json document => some document
  | .range start stop step => some (.str (display (.range start stop step)))
  | .regex literal => some (.str (display (.regex literal)))
  | .pointer path => some (.str (display (.pointer path)))
  | .builtin _ => none
  | .closure _ _ _ _ => none

/-- The documents of all values, none when one of them has none. -/
def toJsonAll? : List Value → Option (List Json)
  | [] => some []
  | value :: rest =>
    match toJson? value, toJsonAll? rest with
    | some document, some documents => some (document :: documents)
    | _, _ => none

end

mutual

/-- The value of a document. -/
def ofJson : Json → Value
  | .null => .nil
  | .bool value => .bool value
  | .int n => .num (Float.ofInt n)
  | .float x => .num x
  | .str text => .str text
  | .arr items => .list (ofJsonAll items)
  | .obj members => .json (.obj members)

/-- The values of documents. -/
def ofJsonAll : List Json → List Value
  | [] => []
  | document :: rest => ofJson document :: ofJsonAll rest

end

/-- A path with a leading slash; the empty path and one that has the slash are left alone. -/
def normalizePath (path : String) : String :=
  match path.toList with
  | [] => path
  | '/' :: _ => path
  | characters => String.ofList ('/' :: characters)

/-- What a path leads to inside a value. JSON literals and lists can be entered, also quoted
ones; nothing else can. -/
def navigate? (path : String) : Value → Option Value
  | .quoted inner => navigate? path inner
  | .json document => (document.pointer? path.toList).map ofJson
  | .list items =>
    (toJson? (.list items)).bind fun document => (document.pointer? path.toList).map ofJson
  | _ => none

/-- Whether a pointer with this path equals a value: another pointer of the same path, or any
value into which the path leads. -/
def pointerMatches (path : String) : Value → Bool
  | .pointer other => path == other
  | value => (navigate? path value).isSome

end ShapeLisp.Value
