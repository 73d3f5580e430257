import ShapeLisp.Regex.Basic
import ShapeLisp.Regex.Grammar
import ShapeLisp.Regex.Search

/-!
# The engine of the program

The engine that sessions run with: source texts are read by the grammar, become programs, and the
programs search by running all ways at once.
-/

namespace ShapeLisp.Regex

/-- The most memory that a program may take, in bytes. -/
def memoryLimit : Nat := 10485760

/-- The memory that one instruction takes, in bytes. -/
def instructionMemory : Nat := 32

/-- An expression with the program that searches for it. -/
structure Prepared where
  /-- The structure of the expression. -/
  expr : Expr
  /-- The program that searches for it. -/
  program : Program

namespace Prepared

/-- Reads a source text and makes its program, unless that would be too large. -/
def ofSource (settings : Settings) (source : String) : Except Fault Prepared :=
  match Expr.ofText? { toSettings := settings } source.toList with
  | some expr =>
    if memoryLimit < expr.weight * instructionMemory then .error (.tooLarge memoryLimit)
    else .ok ⟨expr, Program.ofExpr expr⟩
  | none => .error (.malformed s!"regex parse error: {source}")

/-- The names of the groups, by their numbers. -/
def groupNames (prepared : Prepared) : List (Option String) :=
  let groups := prepared.expr.groups
  (List.range prepared.expr.groupCount).map fun index =>
    (groups.find? fun group => group.1 = index).bind Prod.snd

/-- Whether a text has a match. -/
def isMatch (prepared : Prepared) (text : String) : Bool :=
  (searchFrom prepared.program text.toList 0).isSome

/-- The texts of the groups in the first match. -/
def captures? (prepared : Prepared) (text : String) : Option (List (Option String)) :=
  let characters := text.toList
  (searchFrom prepared.program characters 0).map fun slots =>
    (List.range prepared.expr.groupCount).map (groupText? characters slots)

/-- The texts of all successive matches. -/
def allMatches (prepared : Prepared) (text : String) : List String :=
  let characters := text.toList
  (successive prepared.program characters (2 * characters.length + 2) 0 none).map
    fun (start, stop) => between characters start stop

end Prepared

/-- The engine that sessions run with. -/
instance searchEngine : Engine where
  Program := Prepared
  build := Prepared.ofSource
  groupNames := Prepared.groupNames
  isMatch := Prepared.isMatch
  captures? := Prepared.captures?
  allMatches := Prepared.allMatches

end ShapeLisp.Regex
