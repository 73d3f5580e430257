import ShapeLisp.Eval.Event
import ShapeLisp.Value.Json

/-!
# Data as operators

A range, a regular expression, a JSON literal or a pointer can be applied to values. This module
holds what these operators compute; only the range calls a function, so for it the numbers are
given on which the function is called.
-/

namespace ShapeLisp.Operators

open ShapeLisp.Number

variable [Regex.Engine]

/-! ## Ranges -/

/-- How far from a whole number of steps still counts as that number. -/
def tolerance : Float := 1e-9

/-- The most steps of a range. -/
def maxSteps : Float := 1e7

/-- A number so close to the end of the range that it is taken for the end. -/
def snap (x stop : Float) : Float :=
  if (x - stop).abs < tolerance * greater stop.abs 1.0 then stop else x

/-- The numbers of a range: the first, how far they lie apart, the last bound and their count. -/
structure Progression where
  /-- The first number. -/
  start : Float
  /-- The distance from one to the next, negative when the range goes down. -/
  step : Float
  /-- The bound that the last number may reach. -/
  stop : Float
  /-- How many there are. -/
  count : Nat

namespace Progression

/-- The number at an index, computed from the index so that no error adds up. -/
def item (numbers : Progression) (index : Nat) : Float :=
  snap (numbers.start + Float.ofNat index * numbers.step) numbers.stop

/-- The numbers of a range. The sign of a step does not matter, its size is one unless given; a
range goes down when its end lies below its start. -/
def ofRange (start stop : Float) (step : Option Float) : Except Cause Progression :=
  let size := (step.getD 1.0).abs
  if size == 0.0 || !size.isFinite then .error (.badStep size)
  else
    let step := if stop < start then -size else size
    let steps := floor ((stop - start) / step + tolerance)
    if !steps.isFinite || maxSteps < steps then .error (.longRange start stop)
    else .ok ⟨start, step, stop, (integerPart steps).toNat + 1⟩

end Progression

/-! ## Regular expressions -/

/-- What a regular expression finds in a text: names and texts of its named groups, else all
matches when every match is wanted, else all groups of the first match. -/
def find (literal : Regex) (text : String) : List Value :=
  if literal.hasNamedGroups then
    ((literal.namedCaptures? text).getD []).flatMap fun (name, found) => [.str name, .str found]
  else if literal.compiled.everyMatch then (literal.allMatches text).map .str
  else ((literal.captures? text).getD []).map fun
    | some found => .str found
    | none => .nil

/-- A regular expression applied to values: what it finds in the strings among them. -/
def applyRegex (literal : Regex) (args : List Value) : Value :=
  .list (args.flatMap fun
    | .str text => find literal text
    | _ => [])

/-! ## JSON literals -/

/-- What a document has become after some arguments. -/
structure Observed where
  /-- The document with all merges. -/
  document : Json
  /-- What was looked up on the way. -/
  lookups : List Value
  /-- What happened on the way. -/
  events : List Event

/-- Goes through arguments: JSON literals are merged into the document, strings are paths that are
looked up in the document as it is by then, and other values have no effect. -/
def observe (document : Json) : List Value → Observed
  | [] => ⟨document, [], []⟩
  | .str path :: rest =>
    let found := (document.pointer? (Value.normalizePath path).toList).map Value.ofJson
    let later := observe document rest
    { later with lookups := found.getD .nil :: later.lookups }
  | .json other :: rest =>
    match document.merge? other with
    | some merged => observe merged rest
    | none =>
      let later := observe document rest
      { later with events := .mergeSkipped other :: later.events }
  | _ :: rest => observe document rest

/-- A JSON literal applied to values: the list of what was looked up, or the merged document when
nothing was. -/
def applyJson (document : Json) (args : List Value) : Value × List Event :=
  let seen := observe document args
  (if seen.lookups.isEmpty then .json seen.document else .list seen.lookups, seen.events)

/-! ## Pointers -/

/-- A pointer applied to values: what it leads to in each, nil where it leads nowhere. -/
def applyPointer (path : String) (args : List Value) : Value :=
  let found := fun value => (Value.navigate? path value).getD .nil
  match args with
  | [] => .pointer path
  | [value] => found value
  | values => .list (values.map found)

end ShapeLisp.Operators
