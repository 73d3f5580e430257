import ShapeLisp.Text.Printable

/-!
# Quoted text

Two ways of writing a text between double quotes. `surface` is the notation of the language
itself and escapes the five characters that its reader takes escapes for. `diagnostic` is for
people who look at values: it also escapes every character that is not visible on its own, as
its code point in hexadecimal between braces.
-/

namespace ShapeLisp.Text.Quoted

/-- The written form of one character inside a surface string. -/
def surfaceChar (c : Char) : List Char :=
  if c = '"' then ['\\', '"']
  else if c = '\\' then ['\\', '\\']
  else if c = '\n' then ['\\', 'n']
  else if c = '\t' then ['\\', 't']
  else if c = '\r' then ['\\', 'r']
  else [c]

/-- A text as a string of the language. -/
def surface (text : List Char) : List Char :=
  '"' :: text.flatMap surfaceChar ++ ['"']

/-- Backslash, `u` and the code point in lower-case hexadecimal between braces. -/
def hexEscape (c : Char) : List Char :=
  ['\\', 'u', '\x7b'] ++ Nat.toDigits 16 c.toNat ++ ['\x7d']

/-- The written form of one character inside a diagnostic quotation. -/
def diagnosticChar (c : Char) : List Char :=
  if c = '\x00' then ['\\', '0']
  else if c = '\t' then ['\\', 't']
  else if c = '\r' then ['\\', 'r']
  else if c = '\n' then ['\\', 'n']
  else if c = '\\' then ['\\', '\\']
  else if c = '"' then ['\\', '"']
  else if isShown c then [c]
  else hexEscape c

/-- A text as a diagnostic quotation. -/
def diagnostic (text : List Char) : List Char :=
  '"' :: text.flatMap diagnosticChar ++ ['"']

end ShapeLisp.Text.Quoted
