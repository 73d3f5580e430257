/-!
# Regular expression values

A regular expression literal is its source text and its flag letters. It exists only when they
can be compiled, so its structure carries the compiled expression together with the proof that it
comes from them: two literals with the same source and flags behave in the same way.

Which source texts compile, and what they match, is up to an engine. Values are values over an
engine: whatever is said of them without naming one holds of every engine.
-/

namespace ShapeLisp

namespace Regex

/-- How an engine is to read a source text. -/
structure Settings where
  /-- Characters match their case variants. -/
  ignoreCase : Bool := false
  /-- Line starts and ends count, not only those of the text. -/
  multiLine : Bool := false
  /-- A dot matches line feeds too. -/
  dotAll : Bool := false
  /-- White space and comments in the notation are skipped. -/
  extended : Bool := false
  deriving DecidableEq

/-- Why an engine does not compile a source text. -/
inductive Fault where
  /-- The text is no regular expression, with the words of the engine. -/
  | malformed (report : String)
  /-- What it compiles to would take more memory than the limit, in bytes. -/
  | tooLarge (limit : Nat)
  deriving DecidableEq

/-- The words of a fault. -/
def Fault.message : Fault → String
  | .malformed report => report
  | .tooLarge limit => s!"Compiled regex exceeds size limit of {limit} bytes."

/-- An engine for regular expressions. -/
class Engine where
  /-- Compiled expressions. -/
  Program : Type
  /-- Compiles a source text. -/
  build : Settings → String → Except Fault Program
  /-- The names of the groups in order, none for a group without a name; the whole match is the
  first group. -/
  groupNames : Program → List (Option String)
  /-- Whether a text has a match. -/
  isMatch : Program → String → Bool
  /-- The texts of the groups in the first match in a text, none for a group that has no part in
  it. -/
  captures? : Program → String → Option (List (Option String))
  /-- The texts of all successive matches in a text. -/
  allMatches : Program → String → List String

/-- Why a regular expression literal is refused. -/
inductive Refusal where
  /-- A flag letter that has no meaning. -/
  | unknownFlag (letter : Char)
  /-- A source text that the engine does not compile. -/
  | invalid (source : String) (fault : Fault)
  deriving DecidableEq

/-- The words of a refusal. -/
def Refusal.message : Refusal → String
  | .unknownFlag letter => s!"unknown regex flag '{letter}'"
  | .invalid source fault => s!"invalid regex /{source}/: {fault.message}"

/-- Applies one flag letter to whether every match is wanted and to the settings. -/
def applyLetter : Bool × Settings → Char → Except Refusal (Bool × Settings)
  | (_, settings), 'g' => .ok (true, settings)
  | (every, settings), 'i' => .ok (every, { settings with ignoreCase := true })
  | (every, settings), 'm' => .ok (every, { settings with multiLine := true })
  | (every, settings), 's' => .ok (every, { settings with dotAll := true })
  | (every, settings), 'x' => .ok (every, { settings with extended := true })
  | known, 'u' => .ok known
  | _, letter => .error (.unknownFlag letter)

variable [Engine]

/-- What a source text and flag letters stand for. -/
structure Compiled where
  /-- Whether the operator returns every match instead of the first. -/
  everyMatch : Bool
  /-- What the engine searches for. -/
  program : Engine.Program

/-- Compiles a source text under flag letters. An unknown letter is reported before anything is
said about the source. -/
def compile (source flags : String) : Except Refusal Compiled := do
  let (every, settings) ← flags.toList.foldlM applyLetter (false, {})
  match Engine.build settings source with
  | .ok program => .ok ⟨every, program⟩
  | .error fault => .error (.invalid source fault)

end Regex

variable [Regex.Engine]

/-- A regular expression literal. -/
structure Regex where
  /-- The text between the slashes. -/
  source : String
  /-- The letters after the closing slash. -/
  flags : String
  /-- What they stand for. -/
  compiled : Regex.Compiled
  /-- The literal is one that compiles. -/
  compiles : Regex.compile source flags = .ok compiled

namespace Regex

/-- The literal of a source text and flag letters. -/
def ofSource (source flags : String) : Except Refusal Regex :=
  match h : compile source flags with
  | .ok compiled => .ok ⟨source, flags, compiled, h⟩
  | .error refusal => .error refusal

/-- Literals are equal when their source texts and their flag letters are. -/
instance : BEq Regex := ⟨fun a b => a.source == b.source && a.flags == b.flags⟩

/-- The names of the groups in order. -/
def groupNames (regex : Regex) : List (Option String) :=
  Engine.groupNames regex.compiled.program

/-- Whether some group has a name. -/
def hasNamedGroups (regex : Regex) : Bool :=
  regex.groupNames.any Option.isSome

/-- Whether the text has a match. -/
def isMatch (regex : Regex) (text : String) : Bool :=
  Engine.isMatch regex.compiled.program text

/-- The texts of all groups in the first match, the whole match first. -/
def captures? (regex : Regex) (text : String) : Option (List (Option String)) :=
  Engine.captures? regex.compiled.program text

/-- The names and texts of the named groups in the first match, from left to right; groups that
have no part in it are left out. -/
def namedCaptures? (regex : Regex) (text : String) : Option (List (String × String)) :=
  (regex.captures? text).map fun texts =>
    (regex.groupNames.zip texts).filterMap fun (name, found) => do return (← name, ← found)

/-- The texts of all successive matches. -/
def allMatches (regex : Regex) (text : String) : List String :=
  Engine.allMatches regex.compiled.program text

end Regex

end ShapeLisp
