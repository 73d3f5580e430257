import ShapeLisp.Json.Basic
import ShapeLisp.Text.Alphabetic
import ShapeLisp.Number.Numeral

/-!
# JSON pointers

A pointer is a path of reference tokens, each introduced by a slash. It is followed token by
token: in an object a token names a member, in an array it is an index without leading zeros. The
empty path is the whole document, and a path that does not start with a slash leads nowhere. In a
token `~1` stands for a slash and `~0` for a tilde.
-/

namespace ShapeLisp.Json

open ShapeLisp.Text ShapeLisp.Number

/-- Undoes the two escapes of a reference token. -/
def unescapeToken : List Char → List Char
  | '~' :: '1' :: rest => '/' :: unescapeToken rest
  | '~' :: '0' :: rest => '~' :: unescapeToken rest
  | c :: rest => c :: unescapeToken rest
  | [] => []

/-- The pieces of a text between its slashes; there is always at least one. -/
def splitSlashes : List Char → List (List Char)
  | [] => [[]]
  | c :: rest =>
    if c = '/' then [] :: splitSlashes rest
    else
      match splitSlashes rest with
      | [] => [[c]]
      | piece :: pieces => (c :: piece) :: pieces

/-- The reference tokens of a path, none when it is neither empty nor starts with a slash. -/
def tokens? : List Char → Option (List (List Char))
  | [] => some []
  | '/' :: rest => some ((splitSlashes rest).map unescapeToken)
  | _ => none

/-- The array index that a token denotes: digits without a leading zero, or a lone zero. -/
def index? (token : List Char) : Option Nat :=
  match token with
  | [] => none
  | '0' :: _ :: _ => none
  | digits => if digits.all isAsciiDigit then some (digitsValue digits) else none

/-- Follows one token. -/
def member? (document : Json) (token : List Char) : Option Json :=
  match document with
  | .obj members => Keyed.find? members (String.ofList token)
  | .arr items => (index? token).bind fun i => items[i]?
  | _ => none

/-- Follows tokens one after the other. -/
def follow? (document : Json) : List (List Char) → Option Json
  | [] => some document
  | token :: rest => (document.member? token).bind fun inner => inner.follow? rest

/-- The document that a path leads to. -/
def pointer? (document : Json) (path : List Char) : Option Json :=
  (tokens? path).bind document.follow?

end ShapeLisp.Json
