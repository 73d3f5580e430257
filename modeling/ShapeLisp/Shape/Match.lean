import ShapeLisp.Error
import ShapeLisp.Keyed

/-!
# Matching arguments against shapes

The parameters of a function are shapes. A symbol accepts every argument and binds it; every other
shape is a test: a string or a quoted expression accepts what equals it, a range the numbers inside
it, a regular expression the texts with a match, and any other value what equals it. The named
groups of a regular expression bind the texts they match.

A rest marker ends the list of shapes for single arguments. The shape after it is tried on each
argument that is left, and those that pass are bound together.
-/

namespace ShapeLisp.Shape

variable [Regex.Engine]

/-- The names that announce a rest parameter. -/
def restMarkers : List String := ["...", ".", "@rest"]

/-- Whether a parameter announces a rest parameter. -/
def isRestMarker : Value → Bool
  | .sym name => restMarkers.contains name
  | _ => false

/-- The name under which arguments are bound whose rest shape is not a symbol. -/
def tailName : String := ":tail"

/-- The parameters before the first rest marker, and the marker with what follows it. -/
def splitRest (formals : List Value) : List Value × List Value :=
  formals.span (!isRestMarker ·)

/-- The name of the rest parameter, none when there is no rest marker or its shape is no symbol.
A marker must be followed by a shape that is not itself a marker. -/
def restName (formals : List Value) : Except Cause (Option String) :=
  match (splitRest formals).2 with
  | [] => .ok none
  | marker :: following =>
    match following with
    | [] => .error (.danglingRest marker)
    | target :: _ =>
      if isRestMarker target then .error (.danglingRest marker)
      else
        match target with
        | .sym name => .ok (some name)
        | _ => .ok none

/-- Whether a value lies inside a range. A number does when it is between the bounds, a list when
all its items are such numbers, and a range when the two overlap. -/
def rangeContains (range actual : Value) : Bool :=
  match range.bounds? with
  | none => false
  | some (low, high) =>
    let inside := fun x : Float => low ≤ x && x ≤ high
    match actual with
    | .num x => inside x
    | .range start stop _ =>
      low ≤ Number.greater start stop && Number.lesser start stop ≤ high
    | .list items => items.all fun
      | .num x => inside x
      | _ => false
    | _ => false

/-- Whether a shape accepts an argument. -/
def accepts (formal actual : Value) : Bool :=
  match formal with
  | .quoted inner => inner == actual
  | .range .. => rangeContains formal actual
  | .regex literal => actual.text?.any literal.isMatch
  | .sym _ => true
  | _ => formal == actual

/-- The named texts that a shape finds in an argument it accepts. -/
def captured (formal actual : Value) : List (String × String) :=
  match formal with
  | .regex literal => (actual.text?.bind literal.namedCaptures?).getD []
  | _ => []

/-- Names with the values bound to them. -/
abbrev Bindings := Keyed Value

/-- Adds a value under a name. A name that has a list gets one more item, and one that has
another value gets the list of both. -/
def accumulate (known : Bindings) (name : String) (value : Value) : Bindings :=
  match known.find? name with
  | some (.list items) => known.insert name (.list (items ++ [value]))
  | some first => known.insert name (.list [first, value])
  | none => known.insert name value

/-- What an accepted argument adds to the bindings; a symbol binds only when `bind` is set. -/
def record (bind : Bool) (formal actual : Value) (known : Bindings) : Bindings :=
  match formal with
  | .sym name => if bind then known.insert name actual else known
  | _ =>
    (captured formal actual).foldl (fun known (name, text) => accumulate known name (.str text))
      known

/-- Tries one shape on one argument: the bindings with what it adds, none when it does not
accept. -/
def matchOne (bind : Bool) (formal actual : Value) (known : Bindings) : Option Bindings :=
  if accepts formal actual then some (record bind formal actual known) else none

/-- Tries shapes on arguments one by one; arguments without a shape are left alone. -/
def matchEach : List Value → List Value → Bindings → Option Bindings
  | [], _, known => some known
  | _ :: _, [], _ => none
  | formal :: formals, actual :: actuals, known =>
    (matchOne true formal actual known).bind (matchEach formals actuals)

/-- What the arguments that pass the rest shape capture by name. -/
def restCaptures (target : Value) (actuals : List Value) : Bindings :=
  (actuals.filter (accepts target)).foldl (fun known actual => record false target actual known) []

/-- The name under which the rest is bound as a list. -/
def restKey : Value → String
  | .sym name => name
  | _ => tailName

/-- Adds the rest to the bindings: what was captured by name, or else the arguments that pass as a
list. -/
def bindRest (target : Value) (actuals : List Value) (known : Bindings) : Bindings :=
  let captures := restCaptures target actuals
  if captures.isEmpty then
    known.insert (restKey target) (.list (actuals.filter (accepts target)))
  else known.insertAll captures

/-- Matches arguments against parameters. Without a rest marker there must be as many of the ones
as of the others; with one, the arguments must cover the parameters before it. -/
def matchParams (formals actuals : List Value) : Option Bindings :=
  match splitRest formals with
  | (fixed, []) =>
    if fixed.length = actuals.length then matchEach fixed actuals [] else none
  | (fixed, _ :: following) =>
    if actuals.length < fixed.length then none
    else do
      let known ← matchEach fixed actuals []
      let target ← following.head?
      return bindRest target (actuals.drop fixed.length) known

end ShapeLisp.Shape
