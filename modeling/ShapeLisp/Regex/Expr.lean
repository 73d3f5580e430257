import ShapeLisp.Regex.CharSet

/-!
# Regular expressions

The structure of a regular expression, free of the ways in which it can be written. A group
remembers where it matched; an assertion looks at the characters on both sides of a position.
-/

namespace ShapeLisp.Regex

/-- A condition on the place between two characters. -/
inductive Assertion where
  /-- The start of the text. -/
  | textStart
  /-- The end of the text. -/
  | textEnd
  /-- The start of a line; `crlf` makes carriage returns end lines too. -/
  | lineStart (crlf : Bool)
  /-- The end of a line. -/
  | lineEnd (crlf : Bool)
  /-- A word character on exactly one side. -/
  | wordBoundary (word : CharSet)
  /-- A word character on both sides or on none. -/
  | noWordBoundary (word : CharSet)
  /-- A word character after the place and none before it. -/
  | wordStart (word : CharSet)
  /-- A word character before the place and none after it. -/
  | wordEnd (word : CharSet)
  /-- No word character before the place. -/
  | wordStartHalf (word : CharSet)
  /-- No word character after the place. -/
  | wordEndHalf (word : CharSet)

/-- Whether the assertion holds between two characters, none standing for an end of the text. -/
def Assertion.holds (assertion : Assertion) (before after : Option Char) : Bool :=
  match assertion with
  | .textStart => before.isNone
  | .textEnd => after.isNone
  | .lineStart false => before.isNone || before = some '\n'
  | .lineStart true =>
    before.isNone || before = some '\n' || (before = some '\r' && after != some '\n')
  | .lineEnd false => after.isNone || after = some '\n'
  | .lineEnd true =>
    after.isNone || after = some '\r' || (after = some '\n' && before != some '\r')
  | .wordBoundary word => before.any word != after.any word
  | .noWordBoundary word => before.any word == after.any word
  | .wordStart word => !before.any word && after.any word
  | .wordEnd word => before.any word && !after.any word
  | .wordStartHalf word => !before.any word
  | .wordEndHalf word => !after.any word

/-- A regular expression. -/
inductive Expr where
  /-- Matches the empty text. -/
  | empty
  /-- Matches one character of a set. -/
  | chars (set : CharSet)
  /-- Matches the empty text where an assertion holds. -/
  | look (assertion : Assertion)
  /-- Matches as its body does and remembers the text as the group of this number. -/
  | group (index : Nat) (name : Option String) (body : Expr)
  /-- Matches one expression and then another. -/
  | seq (first second : Expr)
  /-- Matches one expression or another, with preference for the first. -/
  | alt (first second : Expr)
  /-- Matches its body from `least` to `most` times, with preference for more when `greedy`. -/
  | rep (least : Nat) (most : Option Nat) (greedy : Bool) (body : Expr)

namespace Expr

/-- A repetition; none at all is the empty expression and has no groups. -/
def repetition (least : Nat) (most : Option Nat) (greedy : Bool) (body : Expr) : Expr :=
  if most = some 0 then .empty else .rep least most greedy body

/-- The groups of an expression from left to right, with their numbers and names. -/
def groups : Expr → List (Nat × Option String)
  | .empty | .chars _ | .look _ => []
  | .group index name body => (index, name) :: body.groups
  | .seq first second | .alt first second => first.groups ++ second.groups
  | .rep _ _ _ body => body.groups

/-- One more than the greatest group number; the whole match is group zero. -/
def groupCount (expr : Expr) : Nat :=
  (expr.groups.map Prod.fst).foldl max 0 + 1

/-- How many instructions that read a character a program for the expression needs at least. -/
def weight : Expr → Nat
  | .empty | .look _ => 0
  | .chars _ => 1
  | .group _ _ body => body.weight
  | .seq first second => first.weight + second.weight
  | .alt first second => max first.weight second.weight
  | .rep least most _ body => most.getD (max least 1) * body.weight

end Expr

end ShapeLisp.Regex
