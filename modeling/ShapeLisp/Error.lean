import ShapeLisp.Value.Display
import ShapeLisp.Text.Excerpt

/-!
# Errors

Reading fails with a kind, a message and usually an excerpt of the text around the place. An
evaluation fails because a name is not bound, because a function is malformed, or for a cause of
the list below; to such a cause notes are added on the way out, at most one about the expression
and at most one about the function that was running.
-/

namespace ShapeLisp

open ShapeLisp.Text

variable [Regex.Engine]

/-- The kinds of reading errors. -/
inductive ParseErrorKind where
  /-- A token that cannot stand where it does. -/
  | invalidSyntax
  /-- The text ends inside an expression. -/
  | incomplete
  /-- Expressions nested too deeply. -/
  | tooDeeplyNested
  /-- Text after a complete expression. -/
  | trailingContent
  /-- A regular expression that does not compile. -/
  | invalidRegex
  deriving DecidableEq

/-- A reading error. -/
structure ParseError where
  /-- Its kind. -/
  kind : ParseErrorKind
  /-- What is wrong, in words. -/
  message : String
  /-- The text around the place, when there is one. -/
  context : Option String
  /-- The character at the place, none at the end of the text. -/
  found : Option Char
  deriving DecidableEq

namespace ParseError

/-- An error without a place. -/
def ofMessage (kind : ParseErrorKind) (message : String) : ParseError :=
  ⟨kind, message, none, none⟩

/-- An error at a byte offset of a text. -/
def withContext (kind : ParseErrorKind) (message : String) (input : List Char) (offset : Nat) :
    ParseError :=
  let excerpt := Excerpt.around input offset
  ⟨kind, message, some (String.ofList excerpt.line), excerpt.found⟩

/-- The message with the lines about the place. -/
def text (error : ParseError) : String :=
  let found := match error.found with
    | some c => s!"\nFound: {c}"
    | none => ""
  let context := match error.context with
    | some line => s!"\nContext: {line}"
    | none => ""
  s!"ParseError: {error.message}{found}{context}"

end ParseError

/-- The most nested closure applications and alias steps of an evaluation. -/
def maxEvalDepth : Nat := 256

/-- What can go wrong in an evaluation. -/
inductive Cause where
  /-- A wrong number of arguments. -/
  | arity (count : String) (got : Nat)
  /-- A value of the wrong kind. -/
  | expected (kind : String) (found : Value)
  /-- Too many nested applications. -/
  | depthExceeded
  /-- A definition of a name that is locked. -/
  | locked (name : String)
  /-- A rest marker without a rest parameter after it. -/
  | danglingRest (marker : Value)
  /-- A definition of something that is no name. -/
  | unnamedDefinition (signature : Value)
  /-- The argument of a list operation is no list or is empty. -/
  | emptyList (form : String) (found : Value)
  /-- The structural match was not given two lists. -/
  | matchNeedsLists
  /-- The bounds of a range are not numbers. -/
  | rangeNeedsNumbers
  /-- A binding form without a list of bindings. -/
  | letNeedsBindings
  /-- A binding that is not a name and a value. -/
  | malformedBinding (found : Value)
  /-- An application without function and arguments. -/
  | applyNeedsArguments
  /-- The last argument of an application is no list. -/
  | applyNeedsList (found : Value)
  /-- A form that is not a function was to be applied. -/
  | applyToForm (name : String)
  /-- Something that is not a function was to be applied. -/
  | applyToData (found : Value)
  /-- Something that is neither a builtin nor a closure was to be called. -/
  | notCallable (found : Value)
  /-- Something that is no operator was to be applied as one. -/
  | notOperator (found : Value)
  /-- A range was applied to nothing. -/
  | rangeNeedsFunction
  /-- A range step of zero, or one that is not finite. -/
  | badStep (step : Float)
  /-- A range with too many numbers. -/
  | longRange (start stop : Float)
  /-- A division by zero. -/
  | divisionByZero
  /-- A value that is no integer and does not begin with one. -/
  | notAnInteger (found : Value)
  /-- A value that is no number. -/
  | notANumber (found : Value)
  /-- A delay that no clock can measure. -/
  | delayTooLong (millis : Float)
  /-- A selection without pointer and value. -/
  | selectNeedsTwo
  /-- A selection from something without parts. -/
  | selectFromAtom (found : Value)
  /-- A function without parameter list and body. -/
  | lambdaNeedsBody
  /-- A function whose parameters are no list. -/
  | lambdaParameters (found : Value)
  /-- A regular expression that does not compile. -/
  | regex (refusal : Regex.Refusal)
  /-- An error of a host function, in its own words. -/
  | host (message : String)

namespace Cause

/-- A number in the words of a message. -/
def numberText (x : Float) : String :=
  String.ofList (Number.Layout.plain.text x)

/-- The words of a cause. -/
def message : Cause → String
  | .arity count got => s!"expected {count} arguments, got {got}"
  | .expected kind found => s!"expected {kind}, found {found.display}"
  | .depthExceeded => s!"Evaluation depth limit exceeded (max: {maxEvalDepth})"
  | .locked name => s!"Cannot override existing symbol: {name}"
  | .danglingRest marker => s!"expected rest parameter after {marker.display}"
  | .unnamedDefinition signature => s!"def requires a symbol name, found {signature.display}"
  | .emptyList form found => s!"{form}: argument must be a non-empty list, found {found.display}"
  | .matchNeedsLists => "~ requires two lists"
  | .rangeNeedsNumbers => "range requires numeric arguments"
  | .letNeedsBindings => "let requires a list of bindings"
  | .malformedBinding found => s!"let binding must be (name value), found {found.display}"
  | .applyNeedsArguments => "apply requires a function and a list of arguments"
  | .applyNeedsList found => s!"last argument to apply must be a list, found {found.typeName}"
  | .applyToForm name => s!"apply cannot be used with special form {name}"
  | .applyToData found => s!"first argument to apply must be a function, not {found.typeName}"
  | .notCallable found => s!"Cannot apply non-function: {found.display}"
  | .notOperator found => s!"Cannot apply {found.typeName}: {found.display}"
  | .rangeNeedsFunction => "range requires a function argument"
  | .badStep step => s!"invalid range step: {numberText step}"
  | .longRange start stop => s!"range {numberText start}..{numberText stop} has too many steps"
  | .divisionByZero => "division by zero"
  | .notAnInteger (.str text) => s!"cannot convert \"{text}\" to an integer"
  | .notAnInteger found => s!"cannot convert {found.display} to an integer"
  | .notANumber (.str text) => s!"cannot convert \"{text}\" to a number"
  | .notANumber found => s!"cannot convert {found.display} to a number"
  | .delayTooLong millis =>
    s!"wait: {numberText millis}ms: cannot convert float seconds to Duration: "
      ++ "value is either too big or NaN"
  | .selectNeedsTwo => "select requires a pointer and a value"
  | .selectFromAtom found => s!"Unsupported pointer value: {found.display}"
  | .lambdaNeedsBody => "fn requires a parameter list and a body"
  | .lambdaParameters found => s!"fn parameters must be a list, found {found.display}"
  | .regex refusal => refusal.message
  | .host message => message

end Cause

/-- A note about where an evaluation failed. -/
inductive Note where
  /-- The innermost list that was being evaluated. -/
  | context (expr : Value)
  /-- The body of the innermost function that was running. -/
  | inFunction (body : Value)

namespace Note

/-- How the line of a note starts. -/
def label : Note → String
  | .context _ => "\n  Context:"
  | .inFunction _ => "\n  In function:"

/-- The line of a note. -/
def text : Note → String
  | .context expr => s!"\n  Context: while evaluating: {expr.display}"
  | .inFunction body => s!"\n  In function: {body.display}"

end Note

/-- A failed evaluation: its cause and the notes added to it, the first one first. -/
structure Failure where
  /-- What went wrong. -/
  cause : Cause
  /-- Where. -/
  notes : List Note

namespace Failure

/-- The words of the cause and the lines of the notes. -/
def message (failure : Failure) : String :=
  failure.notes.foldl (fun text note => text ++ note.text) failure.cause.message

/-- Whether a text occurs inside another. -/
def occursIn (part : List Char) : List Char → Bool
  | [] => part.isEmpty
  | c :: rest => part.isPrefixOf (c :: rest) || occursIn part rest

/-- Adds a note unless the message has one of the same label already. -/
def annotate (failure : Failure) (note : Note) : Failure :=
  if occursIn note.label.toList failure.message.toList then failure
  else { failure with notes := failure.notes ++ [note] }

end Failure

/-- The ways in which reading and evaluating fail. -/
inductive Error where
  /-- The text cannot be read. -/
  | parse (error : ParseError)
  /-- The evaluation failed. -/
  | eval (failure : Failure)
  /-- A name is bound in no scope around. -/
  | undefinedSymbol (name : String)
  /-- A function is malformed. -/
  | lambda (cause : Cause)

namespace Error

/-- A failed evaluation without notes. -/
def of (cause : Cause) : Error := .eval ⟨cause, []⟩

/-- The words of an error. -/
def text : Error → String
  | .parse error => error.text
  | .eval failure => s!"EvaluationError: {failure.message}"
  | .undefinedSymbol name => s!"Undefined symbol: {name}"
  | .lambda cause => s!"LambdaError: {cause.message}"

/-- Adds a note to a failed evaluation; other errors keep their words. -/
def annotate (error : Error) (note : Note) : Error :=
  match error with
  | .eval failure => .eval (failure.annotate note)
  | other => other

end Error

end ShapeLisp
