import ShapeLisp.Value.Basic
import ShapeLisp.Json.Text
import ShapeLisp.Number.Layout
import ShapeLisp.Text.Quoted

/-!
# Written values

`display` writes a value in the notation of the language, so that what is written can be read
again. `plain` is the same without the quotes around strings, for messages and concatenation.
`describe` names the kind of everything, for people who look at values.
-/

namespace ShapeLisp.Value

open ShapeLisp.Text ShapeLisp.Number

variable [Regex.Engine]

/-- A range: its start, two points, its end, and its step after two slashes. -/
def rangeText (start stop : Float) (step : Option Float) : List Char :=
  let span := surfaceText start ++ ['.', '.'] ++ surfaceText stop
  match step with
  | some step => span ++ ['/', '/'] ++ surfaceText step
  | none => span

/-- A regular expression between slashes, with its flags. -/
def regexText (literal : Regex) : List Char :=
  '/' :: literal.source.toList ++ '/' :: literal.flags.toList

mutual

/-- A value in the notation of the language. -/
def displayChars : Value → List Char
  | .nil => ['n', 'i', 'l']
  | .bool true => ['t', 'r', 'u', 'e']
  | .bool false => ['f', 'a', 'l', 's', 'e']
  | .num x => surfaceText x
  | .str text => Quoted.surface text.toList
  | .sym name => name.toList
  | .list items => '(' :: displayAll items ++ [')']
  | .quoted inner => '\'' :: displayChars inner
  | .range start stop step => rangeText start stop step
  | .regex literal => regexText literal
  | .json document => document.text
  | .pointer path => '/' :: path.toList
  | .builtin id => "#<builtin:".toList ++ id.toList ++ ['>']
  | .closure params _ _ _ => "#<fn (".toList ++ displayAll params ++ [')', '>']

/-- Values with a space between them. -/
def displayAll : List Value → List Char
  | [] => []
  | [value] => displayChars value
  | value :: rest => displayChars value ++ ' ' :: displayAll rest

end

/-- A value in the notation of the language. -/
def display (value : Value) : String :=
  String.ofList value.displayChars

mutual

/-- A value with strings as they are, also inside lists. -/
def plainChars : Value → List Char
  | .str text => text.toList
  | .list items => '(' :: plainAll items ++ [')']
  | value => displayChars value

/-- Plain values with a space between them. -/
def plainAll : List Value → List Char
  | [] => []
  | [value] => plainChars value
  | value :: rest => plainChars value ++ ' ' :: plainAll rest

end

/-- A value with strings as they are. -/
def plain (value : Value) : String :=
  String.ofList value.plainChars

/-- An optional step in a description. -/
def describeStep : Option Float → List Char
  | some step => "Some(".toList ++ Layout.diagnostic.text step ++ [')']
  | none => "None".toList

mutual

/-- A description of a value that names the kind of every part. -/
def describeChars : Value → List Char
  | .nil => "Nil".toList
  | .bool value => "Bool(".toList ++ displayChars (.bool value) ++ [')']
  | .num x => "Number(".toList ++ Layout.plain.text x ++ [')']
  | .str text => "String(".toList ++ Quoted.diagnostic text.toList ++ [')']
  | .sym name => "Symbol(".toList ++ name.toList ++ [')']
  | .list items => "List([".toList ++ describeAll items ++ [']', ')']
  | .quoted inner => "Quoted(".toList ++ describeChars inner ++ [')']
  | .range start stop step =>
    "Range(".toList ++ Layout.plain.text start ++ ['.', '.'] ++ Layout.plain.text stop
      ++ ", step=".toList ++ describeStep step ++ [')']
  | .regex literal => "Regex(".toList ++ regexText literal ++ [')']
  | .json document => "Json(".toList ++ document.text ++ [')']
  | .pointer path => "Pointer(".toList ++ path.toList ++ [')']
  | .builtin id => "BuiltinFunction(".toList ++ id.toList ++ [')']
  | .closure params _ body _ =>
    "Function(params=[".toList ++ describeAll params ++ "], body=".toList ++ describeChars body
      ++ [')']

/-- Descriptions with a comma and a space between them. -/
def describeAll : List Value → List Char
  | [] => []
  | [value] => describeChars value
  | value :: rest => describeChars value ++ ',' :: ' ' :: describeAll rest

end

/-- A description of a value. -/
def describe (value : Value) : String :=
  String.ofList value.describeChars

end ShapeLisp.Value
