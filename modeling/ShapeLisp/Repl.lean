import ShapeLisp.Session
import ShapeLisp.Text.CodePoints

/-!
# The interactive loop

The loop reads lines, evaluates them in one session and prints what they evaluate to. Nil is not
printed, since definitions evaluate to it. Lines that start with a colon may be commands. The loop
itself is here a function from a line to what is printed, so that what it does can be told without
a terminal.
-/

namespace ShapeLisp.Repl

variable [Regex.Engine]

/-- What is printed before the first line is read. -/
def banner : List String :=
  ["Filth expression evaluator",
   "Enter expressions like: (+ 1 2)",
   "Define overloads like: (def (age 12) \"child\")",
   "Type :help for more commands, or Ctrl+C to exit.",
   ""]

/-- What is printed at the end. -/
def farewell : String := "Goodbye!"

/-- The help text. -/
def help : List String :=
  ["Filth Interpreter:",
   "  :help      - Show this help message",
   "  :env       - Show current environment bindings",
   "  :quit      - Exit the interpreter",
   "  :exit      - Exit the interpreter",
   "  Ctrl+C     - Exit the interpreter",
   "",
   "Literals:",
   "  Numbers: 42, -5, 2.5       Strings: \"text\"",
   "  Ranges: 0..10, 10..0//2    Regexes: /(?<word>\\w+)/g",
   "  JSON: \x7blang: filth\x7d       Pointers: //lang",
   "  Quote: '(1 2 3)            Comments: ; to end of line",
   "",
   "Forms:",
   "  def define fn lambda let begin if apply",
   "  cons car cdr list null? = ~ ..",
   "",
   "Builtins:",
   "  + - * /  list? equal? nil? len  wait log  to_i to_s to_f to_b  select",
   "",
   "Examples:",
   "  (def (age 12) \"child\") (def (age 25) \"adult\") (age 25)",
   "  (def (sum first ... rest) (if (null? rest) first (+ first (sum rest))))",
   "  (0..5 (fn (x) (* x 2)))",
   "  (\x7blang: filth\x7d \"lang\")",
   "  (begin (wait 100) \"done\")",
   "",
   "Run with RUST_LOG=filth::log=info to see the output of (log ...).",
   ""]

/-- The help text as a function of the language. -/
def host : Host :=
  [⟨"help", {}, .typed [] ⟨help.map .printed, .ok .nil⟩⟩]

/-- The session that the loop starts with. -/
def start : Session := Session.global host

/-- A name filled up with spaces to a width. -/
def padded (width : Nat) (name : String) : String :=
  name ++ String.ofList (List.replicate (width - name.length) ' ')

/-- Splits a list into rows of a length. -/
def rows {α : Type} (length : Nat) : (fuel : Nat) → List α → List (List α)
  | 0, _ => []
  | _ + 1, [] => []
  | fuel + 1, items => items.take length :: rows length fuel (items.drop length)

/-- A row of names in columns, without spaces at its end. -/
def rowText (names : List String) : String :=
  let columns := " ".intercalate (names.map (padded 15))
  "  " ++ String.ofList (Text.trimStart columns.toList.reverse).reverse

/-- Whether a value is a builtin. -/
def isBuiltin : Value → Bool
  | .builtin _ => true
  | _ => false

/-- The listing of all visible bindings: builtins in columns, everything else with its value. -/
def environmentLines (bindings : Keyed Value) : List String :=
  let (builtins, defined) := bindings.partition fun (_, value) => isBuiltin value
  if bindings.isEmpty then ["No bindings."]
  else
    let builtinLines :=
      if builtins.isEmpty then []
      else
        s!"Builtins ({builtins.length}):"
          :: (rows 4 builtins.length (builtins.map Prod.fst)).map rowText ++ [""]
    let definedLines :=
      if defined.isEmpty then []
      else
        s!"Defined ({defined.length}):"
          :: defined.map fun (name, value) => s!"  {name} = {value.display}"
    builtinLines ++ definedLines

/-- What a line leads to. -/
structure Step where
  /-- The lines printed. -/
  output : List String
  /-- The session afterwards. -/
  session : Session
  /-- How long the line took, in milliseconds. -/
  waited : Nat
  /-- Whether the loop ends. -/
  done : Bool

/-- The lines printed for the result of an evaluation. -/
def resultLines : Except Error Value → List String
  | .ok .nil => []
  | .ok value => [value.display]
  | .error error => [s!"Error: {error.text}"]

/-- Takes one line: a command or a source text. White space around it does not matter. -/
def step (session : Session) (line : String) : Step :=
  match String.ofList (Text.trim line.toList) with
  | "" => ⟨[], session, 0, false⟩
  | ":help" => ⟨help, session, 0, false⟩
  | ":env" => ⟨environmentLines (session.visible 0), session, 0, false⟩
  | ":quit" => ⟨[farewell], session, 0, true⟩
  | ":exit" => ⟨[farewell], session, 0, true⟩
  | source =>
    let (answer, session) := session.evaluateText 0 source
    ⟨answer.printed ++ resultLines answer.result, session, answer.waited, false⟩

/-- What is printed for lines from a session on, until the loop ends or the lines do. -/
def transcript (session : Session) : List String → List String
  | [] => [farewell]
  | line :: rest =>
    let after := step session line
    if after.done then after.output else after.output ++ transcript after.session rest

/-- Everything that is printed when the given lines are entered. -/
def run (lines : List String) : List String :=
  banner ++ transcript start lines

end ShapeLisp.Repl
