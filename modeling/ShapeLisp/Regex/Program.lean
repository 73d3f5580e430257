import ShapeLisp.Regex.Expr

/-!
# Programs that search

A regular expression becomes a program of simple instructions. Where a program may go on in two
ways the first is preferred. Instructions are added from the end of the expression to its start:
`emit` is given the place where to go on after the expression and returns the place where it
begins.
-/

namespace ShapeLisp.Regex

/-- One instruction; places are indices into the program. -/
inductive Instruction where
  /-- Reads a character of the set. -/
  | consume (set : CharSet) (next : Nat)
  /-- Goes on at either place and prefers the first. -/
  | branch (first second : Nat)
  /-- Remembers the position. -/
  | mark (slot : Nat) (next : Nat)
  /-- Goes on where the assertion holds. -/
  | look (assertion : Assertion) (next : Nat)
  /-- Ends the match. -/
  | accept

/-- A program under construction. -/
abbrev Code := Array Instruction

/-- Adds an instruction and returns its place. -/
def Code.add (code : Code) (instruction : Instruction) : Nat × Code :=
  (code.size, code.push instruction)

/-- Goes to the body or past it, in the preferred order. -/
def choice (greedy : Bool) (body past : Nat) : Instruction :=
  if greedy then .branch body past else .branch past body

/-- Adds `count` copies of a body one before the other. -/
def emitCopies (body : Nat → Code → Nat × Code) : (count : Nat) → Nat → Code → Nat × Code
  | 0, next, code => (next, code)
  | count + 1, next, code =>
    let (start, code) := body next code
    emitCopies body count start code

/-- Adds `count` copies of a body of which each may be left out together with those after it. -/
def emitOptional (body : Nat → Code → Nat × Code) (greedy : Bool) (past : Nat) :
    (count : Nat) → Nat → Code → Nat × Code
  | 0, next, code => (next, code)
  | count + 1, next, code =>
    let (start, code) := body next code
    let (entry, code) := code.add (choice greedy start past)
    emitOptional body greedy past count entry code

/-- Adds a body that is repeated once or more often. -/
def emitLoop (body : Nat → Code → Nat × Code) (greedy : Bool) (next : Nat) (code : Code) :
    Nat × Code :=
  let (again, code) := code.add (.branch next next)
  let (start, code) := body again code
  (start, code.setIfInBounds again (choice greedy start next))

/-- Adds the instructions of an expression that goes on at `next`. A body that is repeated without
bound is a loop that can be left out, so that a round that reads nothing ends the loop. -/
def emit : Expr → (next : Nat) → Code → Nat × Code
  | .empty, next, code => (next, code)
  | .chars set, next, code => code.add (.consume set next)
  | .look assertion, next, code => code.add (.look assertion next)
  | .group index _ body, next, code =>
    let (close, code) := code.add (.mark (2 * index + 1) next)
    let (start, code) := emit body close code
    code.add (.mark (2 * index) start)
  | .seq first second, next, code =>
    let (middle, code) := emit second next code
    emit first middle code
  | .alt first second, next, code =>
    let (other, code) := emit second next code
    let (preferred, code) := emit first next code
    code.add (.branch preferred other)
  | .rep least most greedy body, next, code =>
    match most with
    | some most =>
      let (start, code) := emitOptional (emit body) greedy next (most - least) next code
      emitCopies (emit body) least start code
    | none =>
      let (start, code) := emitLoop (emit body) greedy next code
      match least with
      | 0 => code.add (choice greedy start next)
      | least + 1 => emitCopies (emit body) least start code

/-- A program with the place where it starts. -/
structure Program where
  /-- The instructions. -/
  code : Code
  /-- The place of the first. -/
  start : Nat
  /-- How many positions a match remembers. -/
  slots : Nat

/-- The program of an expression; the whole match is group zero. -/
def Program.ofExpr (expr : Expr) : Program :=
  let (accept, code) := Code.add #[] .accept
  let (start, code) := emit (.group 0 none expr) accept code
  ⟨code, start, 2 * expr.groupCount⟩

end ShapeLisp.Regex
