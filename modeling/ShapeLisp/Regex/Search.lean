import ShapeLisp.Regex.Program

/-!
# Searching a text

A search runs all ways through a program at once, one character at a time, in order of
preference. Each place of the program is kept at most once per position, by the way that is
preferred, so a search takes time proportional to the text times the program and a round of a loop
that reads nothing cannot repeat. The match found starts leftmost, and of those that start there
it is the one that the expression prefers.
-/

namespace ShapeLisp.Regex

/-- Remembered positions, two for each group. -/
abbrev Slots := Array (Option Nat)

/-- One way through the program. -/
structure Thread where
  /-- The place of the next instruction: one that reads a character or ends the match. -/
  place : Nat
  /-- The positions remembered on the way. -/
  slots : Slots

/-- A position in a text. -/
structure Position where
  /-- How many characters stand before it. -/
  index : Nat
  /-- The character before it. -/
  before : Option Char
  /-- The character after it. -/
  after : Option Char

/-- The ways that have reached a position, best first. -/
structure Frontier where
  /-- Which places have been reached. -/
  seen : Array Bool
  /-- The threads, best last. -/
  threads : List Thread

/-- No way yet. -/
def Frontier.start (program : Program) : Frontier :=
  ⟨Array.replicate program.code.size false, []⟩

/-- Follows all instructions from a place on that read no character. The fuel is the number of
places: none is visited twice. -/
def Frontier.enter (program : Program) (position : Position) :
    (fuel : Nat) → (place : Nat) → Slots → Frontier → Frontier
  | 0, _, _, frontier => frontier
  | fuel + 1, place, slots, frontier =>
    if frontier.seen.getD place true then frontier
    else
      let frontier := { frontier with seen := frontier.seen.setIfInBounds place true }
      match program.code[place]? with
      | none => frontier
      | some (.consume _ _) | some .accept =>
        { frontier with threads := ⟨place, slots⟩ :: frontier.threads }
      | some (.branch first second) =>
        Frontier.enter program position fuel second slots
          (Frontier.enter program position fuel first slots frontier)
      | some (.mark slot next) =>
        Frontier.enter program position fuel next
          (slots.setIfInBounds slot (some position.index)) frontier
      | some (.look assertion next) =>
        if assertion.holds position.before position.after then
          Frontier.enter program position fuel next slots frontier
        else frontier

/-- Takes the threads, best first, over one character. A thread that ends the match is the result
so far and those after it are dropped. -/
def advance (program : Program) (c : Option Char) (position : Position) :
    List Thread → Frontier → Option Slots → Frontier × Option Slots
  | [], frontier, best => (frontier, best)
  | thread :: rest, frontier, best =>
    match program.code[thread.place]? with
    | some .accept => (frontier, some thread.slots)
    | some (.consume set next) =>
      let frontier :=
        if c.any set then
          frontier.enter program position (program.code.size + 1) next thread.slots
        else frontier
      advance program c position rest frontier best
    | _ => advance program c position rest frontier best

/-- Runs a program over the characters that follow a position. While there is no match yet, a new
way starts at every position. -/
def run (program : Program) : (rest : List Char) → (index : Nat) → (before : Option Char) →
    Frontier → Option Slots → Option Slots
  | rest, index, before, frontier, best =>
    let position : Position := ⟨index, before, rest.head?⟩
    let frontier :=
      if best.isSome then frontier
      else
        frontier.enter program position (program.code.size + 1) program.start
          (Array.replicate program.slots none)
    match rest with
    | [] => (advance program none position frontier.threads.reverse frontier best).2
    | c :: rest =>
      let next : Position := ⟨index + 1, some c, rest.head?⟩
      let (later, best) :=
        advance program (some c) next frontier.threads.reverse (Frontier.start program) best
      if best.isSome && later.threads.isEmpty then best
      else run program rest (index + 1) (some c) later best

/-- The first match in a text at or after a number of characters. -/
def searchFrom (program : Program) (text : List Char) (start : Nat) : Option Slots :=
  let before := if start = 0 then none else text[start - 1]?
  run program (text.drop start) start before (Frontier.start program) none

/-- The bounds of a group in a match. -/
def bounds? (slots : Slots) (group : Nat) : Option (Nat × Nat) := do
  let start ← slots.getD (2 * group) none
  let stop ← slots.getD (2 * group + 1) none
  some (start, stop)

/-- The text between two positions. -/
def between (text : List Char) (start stop : Nat) : String :=
  String.ofList ((text.drop start).take (stop - start))

/-- The text of a group in a match, none when the group has no part in it. -/
def groupText? (text : List Char) (slots : Slots) (group : Nat) : Option String :=
  (bounds? slots group).map fun (start, stop) => between text start stop

/-- The bounds of the successive matches from a position on. A match that is empty and starts
where the last one ended is passed over, and the search goes on one character later. -/
def successive (program : Program) (text : List Char) :
    (fuel : Nat) → (start : Nat) → (last : Option Nat) → List (Nat × Nat)
  | 0, _, _ => []
  | fuel + 1, start, last =>
    if text.length < start then []
    else
      match (searchFrom program text start).bind (bounds? · 0) with
      | none => []
      | some (low, high) =>
        if low = high && last = some high then successive program text fuel (start + 1) last
        else (low, high) :: successive program text fuel high (some high)

end ShapeLisp.Regex
