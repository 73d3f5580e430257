/-!
# Excerpts around a position

Positions in a text are byte offsets into its UTF-8 form. An excerpt shows the text around such a
position on one line: it starts at most `lead` bytes before the position, is at most `width` bytes
long, never cuts through a character, and marks what it leaves out on either side.
-/

namespace ShapeLisp.Text

/-- The length of the UTF-8 form of a text in bytes. -/
def byteLength (text : List Char) : Nat :=
  text.foldr (fun c total => c.utf8Size + total) 0

/-- Splits a text at the last character boundary that is at most `offset` bytes from its start. -/
def splitAtByte (offset : Nat) : List Char → List Char × List Char
  | [] => ([], [])
  | c :: rest =>
    if c.utf8Size ≤ offset then
      let (taken, left) := splitAtByte (offset - c.utf8Size) rest
      (c :: taken, left)
    else ([], c :: rest)

/-- One line of a text around a position. -/
structure Excerpt where
  /-- The line itself, with marks where text is left out. -/
  line : List Char
  /-- The character at the position, none at the end of the text. -/
  found : Option Char
  deriving DecidableEq

namespace Excerpt

/-- How many bytes before the position are shown. -/
def lead : Nat := 20

/-- How many bytes are shown in all. -/
def width : Nat := 100

/-- Stands for text that is left out. -/
def ellipsis : List Char := ['[', '.', '.', '.', ']']

/-- Carriage returns are dropped and line feeds are written as an escape. -/
def onOneLine (text : List Char) : List Char :=
  text.flatMap fun c => if c = '\r' then [] else if c = '\n' then ['\\', 'n'] else [c]

/-- The excerpt of a text around a byte offset. An offset inside a character counts as the start
of that character, and one past the end as the end. -/
def around (text : List Char) (offset : Nat) : Excerpt :=
  let (before, after) := splitAtByte offset text
  let (skipped, tail) := splitAtByte (byteLength before - lead) text
  let (shown, cut) := splitAtByte width tail
  { line := (if skipped.isEmpty then [] else ellipsis) ++ onOneLine shown
      ++ (if cut.isEmpty then [] else ellipsis)
    found := after.head? }

end Excerpt

end ShapeLisp.Text
