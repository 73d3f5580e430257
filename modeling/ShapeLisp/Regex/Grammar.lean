import ShapeLisp.Regex.Basic
import ShapeLisp.Regex.Expr
import ShapeLisp.Number.Numeral

/-!
# The notation of regular expressions

Reads the text of a regular expression. Flags change how what follows them is read, until the
group they stand in ends. Look-around and references back to groups are not part of the notation.
Nested constructs may be at most `deepest` levels deep.

Every reader takes the cursor from state to state; none means that the text is no regular
expression. The fuel of the mutually recursive readers is the length of the text: each of their
steps reads at least one character.
-/

namespace ShapeLisp.Regex

open ShapeLisp.Text

/-- What flags say about the text after them. -/
structure Flags extends Settings where
  /-- Repetitions prefer fewer, and more when marked (`U`). -/
  swapGreed : Bool := false
  /-- Carriage returns end lines as well (`R`). -/
  crlf : Bool := false
  /-- Classes and case follow Unicode (`u`). -/
  unicode : Bool := true
  deriving DecidableEq

namespace Grammar

/-- Where reading stands. -/
structure Cursor where
  /-- The text still to be read. -/
  rest : List Char
  /-- The flags in force. -/
  flags : Flags
  /-- How many groups have been numbered. -/
  groups : Nat
  /-- The group names in use. -/
  names : List String

/-- A reading step, none when the text is malformed. -/
abbrev Read := StateT Cursor Option

/-- The most levels of nesting. -/
def deepest : Nat := 250

/-- Something read, with the number of levels nested in it. -/
structure Nested (α : Type) where
  /-- What was read. -/
  value : α
  /-- Its levels, zero for a single token. -/
  depth : Nat

/-- Gives up. -/
def malformed {α : Type} : Read α := fun _ => none

/-- Gives up unless the condition holds. -/
def require (condition : Bool) : Read Unit := if condition then pure () else malformed

/-- The text still to be read. -/
def remaining : Read (List Char) := do return (← get).rest

/-- Moves to a later place. -/
def moveTo (rest : List Char) : Read Unit := modify fun cursor => { cursor with rest := rest }

/-- The next character, if there is one. -/
def peek : Read (Option Char) := do return (← get).rest.head?

/-- Moves past the next character. -/
def advance : Read Unit := modify fun cursor => { cursor with rest := cursor.rest.drop 1 }

/-- Moves past the given text if it comes next, and tells whether it did. -/
def accept (expected : List Char) : Read Bool := do
  let rest ← remaining
  if expected.isPrefixOf rest then
    moveTo (rest.drop expected.length)
    return true
  else return false

mutual

/-- Drops white space and comments, which run from a hash sign to the end of the line. -/
def dropLayout : List Char → List Char
  | [] => []
  | c :: rest =>
    if isWhitespace c then dropLayout rest
    else if c = '#' then dropComment rest
    else c :: rest

/-- Drops the rest of a comment and the layout after it. -/
def dropComment : List Char → List Char
  | [] => []
  | c :: rest => if c = '\n' then dropLayout rest else dropComment rest

end

/-- Skips layout when the flags say that it is to be skipped. -/
def skipLayout : Read Unit := do
  if (← get).flags.extended then moveTo (dropLayout (← remaining))

/-- Moves past the next character and the layout after it. -/
def advanceLayout : Read Unit := do
  advance
  skipLayout

/-- The characters that need a backslash to stand for themselves. -/
def isMeta (c : Char) : Bool :=
  ['\\', '.', '+', '*', '?', '(', ')', '|', '[', ']', '\x7b', '\x7d', '^', '$', '#', '&', '-',
    '~'].contains c

/-- Whether a backslash before the character makes it stand for itself. -/
def isEscapable (c : Char) : Bool :=
  isMeta c ||
    (c.toNat < 128 && !isAsciiLetter c && !isAsciiDigit c && c != '<' && c != '>')

/-- A single token: a character, a set or an assertion. -/
inductive Token where
  /-- A character that stands for itself. -/
  | literal (c : Char)
  /-- A set with a name. -/
  | set (chars : CharSet)
  /-- An assertion. -/
  | look (assertion : Assertion)

/-- The character of a code. -/
def codeChar (code : Nat) : Read Char := do
  require (code.isValidChar)
  return Char.ofNat code

/-- The value of hexadecimal digits. -/
def hexNumber (digits : List Char) : Option Nat :=
  digits.foldlM (fun value c => (Number.hexValue? c).map (value * 16 + ·)) 0

/-- Reads exactly `count` hexadecimal digits. -/
def hexDigits : (count : Nat) → Read (List Char)
  | 0 => pure []
  | count + 1 => do
    let some c ← peek | malformed
    require (Number.hexValue? c).isSome
    advanceLayout
    return c :: (← hexDigits count)

/-- Reads up to the closing brace and past it, at most `fuel` characters. -/
def untilBrace : (fuel : Nat) → Read (List Char)
  | 0 => malformed
  | fuel + 1 => do
    let some c ← peek | malformed
    if c = '\x7d' then
      advance
      return []
    else
      advanceLayout
      return c :: (← untilBrace fuel)

/-- A character by its code, after the letter that says how many digits it has. -/
def hexEscape (count : Nat) : Read Token := do
  advanceLayout
  let digits ←
    if (← peek) = some '\x7b' then
      advanceLayout
      let digits ← untilBrace ((← remaining).length + 1)
      skipLayout
      pure digits
    else hexDigits count
  require (!digits.isEmpty)
  let some code := hexNumber digits | malformed
  let c ← codeChar code
  require ((← get).flags.unicode || code < 128)
  return .literal c

/-- Splits a text at the first occurrence of a separator. -/
def splitAtFirst (separator : List Char) : List Char → Option (List Char × List Char)
  | [] => none
  | c :: rest =>
    if separator.isPrefixOf (c :: rest) then some ([], (c :: rest).drop separator.length)
    else (splitAtFirst separator rest).map fun (before, after) => (c :: before, after)

/-- The set that a property text denotes. -/
def propertySet? (text : List Char) : Option CharSet :=
  match splitAtFirst ['!', '='] text with
  | some (name, value) => (CharSet.valued? name value).map CharSet.compl
  | none =>
    match splitAtFirst [':'] text <|> splitAtFirst ['='] text with
    | some (name, value) => CharSet.valued? name value
    | none => CharSet.named? text

/-- Closes a set under case when the flags say so. -/
def foldBy (flags : Flags) (set : CharSet) : CharSet :=
  if !flags.ignoreCase then set
  else if flags.unicode then CharSet.foldCase set
  else CharSet.foldAscii set

/-- A property class after its letter. -/
def propertyClass (negated : Bool) : Read Token := do
  advanceLayout
  let flags := (← get).flags
  require flags.unicode
  let some c ← peek | malformed
  let name ←
    if c = '\x7b' then
      advanceLayout
      untilBrace ((← remaining).length + 1)
    else
      require (c != '\\')
      advanceLayout
      pure [c]
  let some set := propertySet? name | malformed
  let folded := foldBy flags set
  return .set (if negated then folded.compl else folded)

/-- A class of one letter, in its ASCII form when Unicode is off; there it cannot be negated,
since its complement has no characters of its own. -/
def letterClass (unicodeSet asciiSet : CharSet) (negated : Bool) : Read Token := do
  advance
  if (← get).flags.unicode then
    return .set (if negated then unicodeSet.compl else unicodeSet)
  else
    require (!negated)
    return .set asciiSet

/-- The word characters under the flags in force. -/
def wordSet : Read CharSet := do
  return if (← get).flags.unicode then CharSet.word else CharSet.asciiWord

/-- The kind of a word boundary given by a name between braces. A brace that starts no name is
left for a repetition. -/
def boundaryKind (word : CharSet) : Read Assertion := do
  let start ← remaining
  if start.head? != some '\x7b' then return .wordBoundary word
  advanceLayout
  let isNameChar := fun c : Char => isAsciiLetter c || c = '-'
  let some c ← peek | malformed
  if !isNameChar c then
    moveTo start
    return .wordBoundary word
  let name ← untilBrace ((← remaining).length + 1)
  match String.ofList name with
  | "start" => return .wordStart word
  | "end" => return .wordEnd word
  | "start-half" => return .wordStartHalf word
  | "end-half" => return .wordEndHalf word
  | _ => malformed

/-- An escape, from its backslash on. -/
def escape : Read Token := do
  advance
  let some c ← peek | malformed
  match c with
  | 'x' => hexEscape 2
  | 'u' => hexEscape 4
  | 'U' => hexEscape 8
  | 'p' => propertyClass false
  | 'P' => propertyClass true
  | 'd' => letterClass CharSet.digit isAsciiDigit false
  | 'D' => letterClass CharSet.digit isAsciiDigit true
  | 's' => letterClass CharSet.space CharSet.asciiSpace false
  | 'S' => letterClass CharSet.space CharSet.asciiSpace true
  | 'w' => letterClass CharSet.word CharSet.asciiWord false
  | 'W' => letterClass CharSet.word CharSet.asciiWord true
  | _ =>
    advance
    if isEscapable c then return .literal c
    else
      match c with
      | 'a' => return .literal '\x07'
      | 'f' => return .literal '\x0c'
      | 't' => return .literal '\t'
      | 'n' => return .literal '\n'
      | 'r' => return .literal '\r'
      | 'v' => return .literal '\x0b'
      | 'A' => return .look .textStart
      | 'z' => return .look .textEnd
      | 'b' => return .look (← boundaryKind (← wordSet))
      | 'B' => return .look (.noWordBoundary (← wordSet))
      | '<' => return .look (.wordStart (← wordSet))
      | '>' => return .look (.wordEnd (← wordSet))
      | _ => malformed

/-- The characters that a dot matches. -/
def dotSet (flags : Flags) : CharSet :=
  if flags.dotAll then CharSet.any
  else if flags.crlf then fun c => c != '\n' && c != '\r'
  else fun c => c != '\n'

/-- The expression of a token under the flags in force. -/
def tokenExpr : Token → Read Expr
  | .literal c => do return .chars (foldBy (← get).flags (CharSet.single c))
  | .set chars => return .chars chars
  | .look assertion => return .look assertion

/-- A token outside brackets. -/
def primitive : Read Expr := do
  let some c ← peek | malformed
  let flags := (← get).flags
  match c with
  | '\\' => tokenExpr (← escape)
  | '.' =>
    advance
    require flags.unicode
    return .chars (dotSet flags)
  | '^' =>
    advance
    return .look (if flags.multiLine then .lineStart flags.crlf else .textStart)
  | '$' =>
    advance
    return .look (if flags.multiLine then .lineEnd flags.crlf else .textEnd)
  | _ =>
    advance
    tokenExpr (.literal c)

/-! ## Bracketed sets -/

/-- The operators between the parts of a bracketed set. -/
inductive SetOp where
  /-- Characters of both parts. -/
  | inter
  /-- Characters of the first part only. -/
  | diff
  /-- Characters of exactly one part. -/
  | symmDiff

/-- A token inside brackets. -/
def setToken : Read Token := do
  let some c ← peek | malformed
  if c = '\\' then escape
  else
    advance
    return .literal c

/-- A literal at an end of a range. -/
def rangeEnd : Token → Read Char
  | .literal c => pure c
  | _ => malformed

/-- The first character after a hyphen and the layout behind it. -/
def afterHyphen : Read (Option Char) := do
  let rest := (← remaining).drop 1
  return (if (← get).flags.extended then dropLayout rest else rest).head?

/-- A token or a range inside brackets. -/
def setRange : Read CharSet := do
  let first ← setToken
  skipLayout
  let some c ← peek | malformed
  let follower ← afterHyphen
  if c != '-' || follower = some ']' || follower = some '-' then
    match first with
    | .literal c =>
      require ((← get).flags.unicode || c.toNat < 128)
      return CharSet.single c
    | .set chars => return chars
    | .look _ => malformed
  else
    advanceLayout
    let some _ ← peek | malformed
    let low ← rangeEnd first
    let high ← rangeEnd (← setToken)
    require (low ≤ high)
    require ((← get).flags.unicode || high.toNat < 128)
    return CharSet.span low high

/-- A named ASCII class in its own brackets, if one comes next. -/
def asciiClass : Read (Option CharSet) := do
  let start ← remaining
  if !(← accept ['[', ':']) then return none
  let negated ← accept ['^']
  let rest ← remaining
  let name := rest.takeWhile (· != ':')
  moveTo (rest.drop name.length)
  match CharSet.asciiClass? (String.ofList name), ← accept [':', ']'] with
  | some set, true => return some (if negated then set.compl else set)
  | _, _ =>
    moveTo start
    return none

/-- Hyphens at the start of a bracketed set stand for themselves. -/
def leadingHyphens : (fuel : Nat) → CharSet → Nat → Read (CharSet × Nat)
  | 0, _, _ => malformed
  | fuel + 1, set, count => do
    if (← peek) = some '-' then
      advanceLayout
      leadingHyphens fuel (set.union (CharSet.single '-')) (count + 1)
    else return (set, count)

/-- Parts of a bracketed set read so far. -/
structure SetParts where
  /-- The operator and the part before it, when one has been read. -/
  pending : Option (SetOp × Nested CharSet)
  /-- The union of the items read since. -/
  union : CharSet
  /-- How many items that union has. -/
  count : Nat
  /-- The deepest of these items. -/
  depth : Nat

/-- Adds an item. -/
def SetParts.push (parts : SetParts) (item : Nested CharSet) : SetParts :=
  { parts with
    union := parts.union.union item.value
    count := parts.count + 1
    depth := max parts.depth item.depth }

/-- Applies the pending operator to the items read since. -/
def SetParts.combine (flags : Flags) (parts : SetParts) : Nested CharSet :=
  let itemDepth := if 1 < parts.count then parts.depth + 1 else parts.depth
  match parts.pending with
  | none => ⟨parts.union, itemDepth⟩
  | some (op, left) =>
    let first := foldBy flags left.value
    let second := foldBy flags parts.union
    let result := match op with
      | .inter => first.inter second
      | .diff => first.diff second
      | .symmDiff => first.symmDiff second
    ⟨result, max left.depth itemDepth + 1⟩

/-- Starts the part after an operator. -/
def SetParts.next (flags : Flags) (op : SetOp) (parts : SetParts) : SetParts :=
  ⟨some (op, parts.combine flags), CharSet.empty, 0, 0⟩

mutual

/-- A bracketed set, from its opening bracket on. -/
def bracketed : (fuel : Nat) → Read (Nested CharSet)
  | 0 => malformed
  | fuel + 1 => do
    advanceLayout
    let negated ← accept ['^']
    if negated then skipLayout
    let flags := (← get).flags
    let (hyphens, count) ← leadingHyphens ((← remaining).length + 1) CharSet.empty 0
    let start : SetParts := ⟨none, hyphens, count, 0⟩
    let start ←
      if count = 0 && (← peek) = some ']' then
        advanceLayout
        pure (start.push ⟨CharSet.single ']', 0⟩)
      else pure start
    let inner ← setItems fuel start
    let folded := foldBy flags inner.value
    require (flags.unicode || !negated)
    return ⟨if negated then folded.compl else folded, inner.depth + 1⟩

/-- The items of a bracketed set up to its closing bracket. -/
def setItems : (fuel : Nat) → SetParts → Read (Nested CharSet)
  | 0, _ => malformed
  | fuel + 1, parts => do
    skipLayout
    let flags := (← get).flags
    match ← remaining with
    | [] => malformed
    | '[' :: _ =>
      match ← asciiClass with
      | some set => setItems fuel (parts.push ⟨set, 0⟩)
      | none =>
        let inner ← bracketed fuel
        setItems fuel (parts.push inner)
    | ']' :: _ =>
      advance
      return parts.combine flags
    | '&' :: '&' :: rest =>
      moveTo rest
      setItems fuel (parts.next flags .inter)
    | '-' :: '-' :: rest =>
      moveTo rest
      setItems fuel (parts.next flags .diff)
    | '~' :: '~' :: rest =>
      moveTo rest
      setItems fuel (parts.next flags .symmDiff)
    | _ =>
      let set ← setRange
      setItems fuel (parts.push ⟨set, 0⟩)

end

/-! ## Groups and repetitions -/

/-- Whether a character may stand in a group name. -/
def isNameChar (isFirst : Bool) (c : Char) : Bool :=
  if isFirst then c = '_' || isAlphabetic c
  else c = '_' || c = '.' || c = '[' || c = ']' || isAlphanumeric c

/-- A group name up to its closing angle bracket. -/
def groupName : Read String := do
  let rest ← remaining
  let name := rest.takeWhile (· != '>')
  match name with
  | [] => malformed
  | first :: others =>
    require (isNameChar true first && others.all (isNameChar false))
    require (name.length < rest.length)
    moveTo (rest.drop (name.length + 1))
    let text := String.ofList name
    require (!(← get).names.contains text)
    modify fun cursor => { cursor with names := text :: cursor.names }
    return text

/-- Sets one flag. -/
def setFlag (letter : Char) (on : Bool) (flags : Flags) : Option Flags :=
  match letter with
  | 'i' => some { flags with ignoreCase := on }
  | 'm' => some { flags with multiLine := on }
  | 's' => some { flags with dotAll := on }
  | 'x' => some { flags with extended := on }
  | 'U' => some { flags with swapGreed := on }
  | 'R' => some { flags with crlf := on }
  | 'u' => some { flags with unicode := on }
  | _ => none

/-- Applies flag letters; those after a hyphen are switched off. A letter may occur once only,
and so may the hyphen, which may not be the last. -/
def applyFlags : (on : Bool) → (seen : List Char) → List Char → Flags → Option Flags
  | _, seen, [], flags => if seen.head? = some '-' then none else some flags
  | on, seen, letter :: rest, flags =>
    if seen.contains letter then none
    else if letter = '-' then applyFlags false (letter :: seen) rest flags
    else do
      let flags ← setFlag letter on flags
      applyFlags on (letter :: seen) rest flags

/-- What the opening of a group says. -/
inductive Opening where
  /-- A group that is numbered and may have a name. -/
  | capture (index : Nat) (name : Option String)
  /-- A group of its own flags. -/
  | plain (flags : Flags)
  /-- No group: the flags change from here on. -/
  | directive (flags : Flags)

/-- Numbers a new group. -/
def nextGroup : Read Nat := do
  let index := (← get).groups + 1
  modify fun cursor => { cursor with groups := index }
  return index

/-- The opening of a group, from its parenthesis on. -/
def opening : Read Opening := do
  advanceLayout
  let rest ← remaining
  let looksAround := [['?', '='], ['?', '!'], ['?', '<', '='], ['?', '<', '!']].any
    fun mark => mark.isPrefixOf rest
  require (!looksAround)
  if (← accept ['?', 'P', '<']) || (← accept ['?', '<']) then
    let index ← nextGroup
    return .capture index (some (← groupName))
  else if ← accept ['?'] then
    let rest ← remaining
    let letters := rest.takeWhile fun c => c != ':' && c != ')'
    let some flags := applyFlags true [] letters (← get).flags | malformed
    let ends := rest.drop letters.length
    moveTo (ends.drop 1)
    match ends with
    | ':' :: _ => return .plain flags
    | ')' :: _ =>
      require (!letters.isEmpty)
      return .directive flags
    | _ => malformed
  else return .capture (← nextGroup) none

/-- A decimal number with white space around it. -/
def decimal : Read (Option Nat) := do
  moveTo (trimStart (← remaining))
  let rec digits : (fuel : Nat) → Read (List Char)
    | 0 => pure []
    | fuel + 1 => do
      match ← peek with
      | some c =>
        if isAsciiDigit c then
          advanceLayout
          return c :: (← digits fuel)
        else return []
      | none => return []
  let found ← digits ((← remaining).length)
  moveTo (trimStart (← remaining))
  skipLayout
  if found.isEmpty then return none
  else
    let value := Number.digitsValue found
    require (value < Nat.pow 2 32)
    return some value

/-- The bounds of a counted repetition, from its opening brace on. -/
def bounds : Read (Nat × Option Nat) := do
  advanceLayout
  let some least ← decimal | malformed
  match ← peek with
  | some ',' =>
    advanceLayout
    if (← peek) = some '\x7d' then
      advanceLayout
      return (least, none)
    else
      let some most ← decimal | malformed
      require ((← peek) = some '\x7d')
      advanceLayout
      require (least ≤ most)
      return (least, some most)
  | some '\x7d' =>
    advanceLayout
    return (least, some least)
  | _ => malformed

/-- A part of a sequence: an expression, or a change of flags, which cannot be repeated. -/
inductive Piece where
  /-- An expression. -/
  | expr (body : Nested Expr)
  /-- A change of flags. -/
  | directive

/-- Repeats the last piece. A question mark right after the operator reverses its preference. -/
def repeatLast (pieces : List Piece) (least : Nat) (most : Option Nat) : Read (List Piece) := do
  let lazyMark ← accept ['?']
  let greedy := lazyMark == (← get).flags.swapGreed
  match pieces with
  | .expr body :: before =>
    return .expr ⟨Expr.repetition least most greedy body.value, body.depth + 1⟩ :: before
  | _ => malformed

/-- The expression of pieces, which are in reverse order. -/
def sequence (pieces : List Piece) : Nested Expr :=
  let bodies := pieces.filterMap fun
    | .expr body => some body
    | .directive => none
  let value := match bodies with
    | [] => .empty
    | last :: before => before.foldl (fun after body => .seq body.value after) last.value
  let depth := bodies.foldl (fun depth body => max depth body.depth) 0
  ⟨value, if 1 < pieces.length then depth + 1 else depth⟩

mutual

/-- Alternatives up to a closing parenthesis or the end, with those already read. -/
def alternatives : (fuel : Nat) → List (Nested Expr) → Read (Nested Expr)
  | 0, _ => malformed
  | fuel + 1, known => do
    let body := sequence (← pieces fuel [])
    if ← accept ['|'] then alternatives fuel (body :: known)
    else
      match known with
      | [] => return body
      | _ =>
        let value := known.foldl (fun after branch => .alt branch.value after) body.value
        let depth := known.foldl (fun depth branch => max depth branch.depth) body.depth
        return ⟨value, depth + 1⟩

/-- The pieces of a sequence, those already read in reverse order. -/
def pieces : (fuel : Nat) → List Piece → Read (List Piece)
  | 0, _ => malformed
  | fuel + 1, known => do
    skipLayout
    match ← peek with
    | none | some '|' | some ')' => return known
    | some '(' =>
      let old := (← get).flags
      match ← opening with
      | .directive flags =>
        modify fun cursor => { cursor with flags := flags }
        pieces fuel (.directive :: known)
      | .plain flags =>
        modify fun cursor => { cursor with flags := flags }
        let body ← grouped fuel old
        pieces fuel (.expr body :: known)
      | .capture index name =>
        let body ← grouped fuel old
        pieces fuel (.expr ⟨.group index name body.value, body.depth⟩ :: known)
    | some '[' =>
      let set ← bracketed fuel
      pieces fuel (.expr ⟨.chars set.value, set.depth⟩ :: known)
    | some '?' =>
      advance
      pieces fuel (← repeatLast known 0 (some 1))
    | some '*' =>
      advance
      pieces fuel (← repeatLast known 0 none)
    | some '+' =>
      advance
      pieces fuel (← repeatLast known 1 none)
    | some '\x7b' =>
      let (least, most) ← bounds
      pieces fuel (← repeatLast known least most)
    | _ =>
      let body ← primitive
      pieces fuel (.expr ⟨body, 0⟩ :: known)

/-- The body of a group and its closing parenthesis; afterwards the old flags hold again. -/
def grouped : (fuel : Nat) → Flags → Read (Nested Expr)
  | 0, _ => malformed
  | fuel + 1, old => do
    let body ← alternatives fuel []
    require (← accept [')'])
    modify fun cursor => { cursor with flags := old }
    return ⟨body.value, body.depth + 1⟩

end

/-- Reads a whole text. -/
def whole (fuel : Nat) : Read Expr := do
  let body ← alternatives fuel []
  require (← remaining).isEmpty
  require (body.depth ≤ deepest)
  return body.value

end Grammar

/-- The regular expression that a text denotes under initial flags. -/
def Expr.ofText? (flags : Flags) (text : List Char) : Option Expr :=
  (Grammar.whole (4 * text.length + 4) ⟨text, flags, 0, []⟩).map Prod.fst

end ShapeLisp.Regex
