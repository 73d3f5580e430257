import ShapeLisp.Regex.Engine
import ShapeLisp.Repl

/-!
# The program

Reads lines from the standard input until it ends or a command ends the loop.
-/

open ShapeLisp

/-- Prints lines in order. -/
def printLines (lines : List String) : IO Unit :=
  lines.forM IO.println

/-- Reads and answers lines from a session on. -/
partial def interact (input : IO.FS.Stream) (session : Session) : IO Unit := do
  let line ← input.getLine
  if line.isEmpty then IO.println Repl.farewell
  else
    let after := Repl.step session line
    IO.sleep after.waited.toUInt32
    printLines after.output
    if !after.done then interact input after.session

/-- The interactive loop on the standard input. -/
def main : IO Unit := do
  printLines Repl.banner
  interact (← IO.getStdin) Repl.start
