import ShapeLisp.Text.Alphabetic
import ShapeLisp.Text.CaseFold
import ShapeLisp.Text.Category.Letter
import ShapeLisp.Text.Category.Mark
import ShapeLisp.Text.Category.Number
import ShapeLisp.Text.Category.Punctuation
import ShapeLisp.Text.Category.Symbol
import ShapeLisp.Text.Category.Other
import ShapeLisp.Text.CodePoints
import ShapeLisp.Text.Property
import ShapeLisp.Text.Script

/-!
# Sets of characters

A set of characters is a test on characters. Sets are combined as sets are, can be closed under
case folding, and have names: the classes of a single letter, the bracketed ASCII classes and the
Unicode properties.
-/

namespace ShapeLisp.Regex

open ShapeLisp.Text

/-- A set of characters. -/
abbrev CharSet := Char → Bool

namespace CharSet

/-- No character. -/
def empty : CharSet := fun _ => false

/-- Every character. -/
def any : CharSet := fun _ => true

/-- One character. -/
def single (c : Char) : CharSet := fun d => d = c

/-- The characters from one to another, both included. -/
def span (low high : Char) : CharSet := fun c => low ≤ c && c ≤ high

/-- The characters of a table. -/
def ofTable (table : CodePoints) : CharSet := fun c => table.has c

/-- Characters of either set. -/
def union (a b : CharSet) : CharSet := fun c => a c || b c

/-- Characters of both sets. -/
def inter (a b : CharSet) : CharSet := fun c => a c && b c

/-- Characters of the first set that are not in the second. -/
def diff (a b : CharSet) : CharSet := fun c => a c && !b c

/-- Characters of exactly one of the sets. -/
def symmDiff (a b : CharSet) : CharSet := fun c => a c != b c

/-- Characters outside a set. -/
def compl (a : CharSet) : CharSet := fun c => !a c

/-- The union of a list of tables. -/
def ofTables (tables : List CodePoints) : CharSet :=
  fun c => tables.any fun table => table.has c

/-- The set with every character that differs from one of its characters in case only. -/
def foldCase (a : CharSet) : CharSet :=
  fun c => a c || (caseVariants c.toNat).any fun point =>
    if _ : point.isValidChar then a (Char.ofNat point) else false

/-- The set with every ASCII letter that differs from one of its letters in case only. -/
def foldAscii (a : CharSet) : CharSet :=
  fun c => a c ||
    (('a' ≤ c && c ≤ 'z') && a (Char.ofNat (c.toNat - 32))) ||
    (('A' ≤ c && c ≤ 'Z') && a (Char.ofNat (c.toNat + 32)))

/-- Decimal digits of any script. -/
def digit : CharSet := fun c =>
  if c.toNat < 128 then isAsciiDigit c else Category.decimalNumber.has c

/-- White space. -/
def space : CharSet := isWhitespace

/-- Word characters: alphabetic characters, marks, decimal digits, connectors and the two join
controls. -/
def word : CharSet := fun c =>
  if c.toNat < 128 then isAsciiLetter c || isAsciiDigit c || c = '_'
  else
    alphabeticBeyondAscii.has c || Category.nonspacingMark.has c || Category.spacingMark.has c ||
    Category.enclosingMark.has c || Category.decimalNumber.has c ||
    Category.connectorPunctuation.has c || c.toNat = 0x200C || c.toNat = 0x200D

/-- ASCII word characters. -/
def asciiWord : CharSet := fun c => isAsciiLetter c || isAsciiDigit c || c = '_'

/-- ASCII white space. -/
def asciiSpace : CharSet := fun c => span '\t' '\r' c || c = ' '

/-- The ASCII class of a name. -/
def asciiClass? (name : String) : Option CharSet :=
  match name with
  | "alnum" => some fun c => isAsciiLetter c || isAsciiDigit c
  | "alpha" => some isAsciiLetter
  | "ascii" => some fun c => c.toNat < 128
  | "blank" => some fun c => c = ' ' || c = '\t'
  | "cntrl" => some fun c => c.toNat < 32 || c.toNat = 127
  | "digit" => some isAsciiDigit
  | "graph" => some (span '!' '~')
  | "lower" => some (span 'a' 'z')
  | "print" => some (span ' ' '~')
  | "punct" => some fun c => span '!' '~' c && !isAsciiLetter c && !isAsciiDigit c
  | "space" => some asciiSpace
  | "upper" => some (span 'A' 'Z')
  | "word" => some asciiWord
  | "xdigit" => some fun c => isAsciiDigit c || span 'a' 'f' c || span 'A' 'F' c
  | _ => none

/-- The tables of a general category by its normal name, long or short. -/
def categoryTables? (name : String) : Option (List CodePoints) :=
  let cased := [Category.uppercaseLetter, Category.lowercaseLetter, Category.titlecaseLetter]
  match name with
  | "lu" | "uppercaseletter" => some [Category.uppercaseLetter]
  | "ll" | "lowercaseletter" => some [Category.lowercaseLetter]
  | "lt" | "titlecaseletter" => some [Category.titlecaseLetter]
  | "lc" | "casedletter" => some cased
  | "lm" | "modifierletter" => some [Category.modifierLetter]
  | "lo" | "otherletter" => some [Category.otherLetter]
  | "l" | "letter" => some (cased ++ [Category.modifierLetter, Category.otherLetter])
  | "mn" | "nonspacingmark" => some [Category.nonspacingMark]
  | "mc" | "spacingmark" => some [Category.spacingMark]
  | "me" | "enclosingmark" => some [Category.enclosingMark]
  | "m" | "mark" | "combiningmark" =>
    some [Category.nonspacingMark, Category.spacingMark, Category.enclosingMark]
  | "nd" | "decimalnumber" | "digit" => some [Category.decimalNumber]
  | "nl" | "letternumber" => some [Category.letterNumber]
  | "no" | "othernumber" => some [Category.otherNumber]
  | "n" | "number" =>
    some [Category.decimalNumber, Category.letterNumber, Category.otherNumber]
  | "pc" | "connectorpunctuation" => some [Category.connectorPunctuation]
  | "pd" | "dashpunctuation" => some [Category.dashPunctuation]
  | "ps" | "openpunctuation" => some [Category.openPunctuation]
  | "pe" | "closepunctuation" => some [Category.closePunctuation]
  | "pi" | "initialpunctuation" => some [Category.initialPunctuation]
  | "pf" | "finalpunctuation" => some [Category.finalPunctuation]
  | "po" | "otherpunctuation" => some [Category.otherPunctuation]
  | "p" | "punctuation" | "punct" =>
    some [Category.connectorPunctuation, Category.dashPunctuation, Category.openPunctuation,
      Category.closePunctuation, Category.initialPunctuation, Category.finalPunctuation,
      Category.otherPunctuation]
  | "sm" | "mathsymbol" => some [Category.mathSymbol]
  | "sc" | "currencysymbol" => some [Category.currencySymbol]
  | "sk" | "modifiersymbol" => some [Category.modifierSymbol]
  | "so" | "othersymbol" => some [Category.otherSymbol]
  | "s" | "symbol" =>
    some [Category.mathSymbol, Category.currencySymbol, Category.modifierSymbol,
      Category.otherSymbol]
  | "zs" | "spaceseparator" => some [Category.spaceSeparator]
  | "zl" | "lineseparator" => some [Category.lineSeparator]
  | "zp" | "paragraphseparator" => some [Category.paragraphSeparator]
  | "z" | "separator" =>
    some [Category.spaceSeparator, Category.lineSeparator, Category.paragraphSeparator]
  | "cc" | "control" | "cntrl" => some [Category.control]
  | "cf" | "format" => some [Category.format]
  | "cs" | "surrogate" => some []
  | "co" | "privateuse" => some [Category.privateUse]
  | "cn" | "unassigned" => some [Category.unassigned]
  | "c" | "other" =>
    some [Category.control, Category.format, Category.privateUse, Category.unassigned]
  | _ => none

/-- The set of a general category by its normal name. -/
def category? (name : String) : Option CharSet :=
  match name with
  | "any" => some any
  | "assigned" => some fun c => !Category.unassigned.has c
  | "ascii" => some fun c => c.toNat < 128
  | _ => (categoryTables? name).map ofTables

/-- What may begin an identifier: letters, letter numbers and a few others, without the one letter
that is kept for notations (ID_Start). -/
def idStart : CharSet := fun c =>
  (((categoryTables? "l").getD []).any (·.has c) || Category.letterNumber.has c ||
    Property.otherIdStart.has c) && c.toNat != 0x2E2F

/-- What may stand in an identifier after its start (ID_Continue). -/
def idContinue : CharSet := fun c =>
  idStart c || Category.nonspacingMark.has c || Category.spacingMark.has c ||
    Category.decimalNumber.has c || Category.connectorPunctuation.has c ||
    Property.otherIdContinue.has c

/-- What may stand in an identifier and still may after normalisation (XID_Continue). -/
def xidContinue : CharSet := fun c => idContinue c && !Property.unstableInIdentifiers.has c

/-- What may begin an identifier and still may after normalisation (XID_Start). -/
def xidStart : CharSet := fun c =>
  idStart c && xidContinue c && !Property.unstableAtIdentifierStart.has c

/-- The set of a binary property by its normal name. -/
def property? (name : String) : Option CharSet :=
  match name with
  | "alphabetic" | "alpha" => some isAlphabetic
  | "lowercase" | "lower" => some (ofTable Property.lowercase)
  | "uppercase" | "upper" => some (ofTable Property.uppercase)
  | "whitespace" | "wspace" | "space" => some space
  | "cased" => some (ofTable Property.cased)
  | "math" => some (ofTable Property.math)
  | "emoji" => some (ofTable Property.emoji)
  | "dash" => some (ofTable Property.dash)
  | "ideographic" | "ideo" => some (ofTable Property.ideographic)
  | "hexdigit" | "hex" => some (ofTable Property.hexDigits)
  | "asciihexdigit" | "ahex" => asciiClass? "xdigit"
  | "idstart" | "ids" => some idStart
  | "idcontinue" | "idc" => some idContinue
  | "xidstart" | "xids" => some xidStart
  | "xidcontinue" | "xidc" => some xidContinue
  | "joincontrol" | "joinc" => some (span '\u200C' '\u200D')
  | "defaultignorablecodepoint" | "di" => some (ofTable Property.defaultIgnorable)
  | _ => none

/-- A property name without case, blanks, underscores and hyphens, and without a leading `is`. -/
def normalName (name : List Char) : String :=
  let kept := (name.filter fun c => c.toNat < 128 && c != ' ' && c != '_' && c != '-').map
    fun c => if 'A' ≤ c && c ≤ 'Z' then Char.ofNat (c.toNat + 32) else c
  match kept with
  | ['i', 's', 'c'] => "isc"
  | 'i' :: 's' :: rest => String.ofList rest
  | letters => String.ofList letters

/-- The set of a property that is named alone: a binary property, a category or a script. -/
def named? (name : List Char) : Option CharSet :=
  let normal := normalName name
  property? normal <|> category? normal <|> (Script.find? normal).map ofTable

/-- The set of a property with a value: a category or a script. -/
def valued? (name value : List Char) : Option CharSet :=
  match normalName name with
  | "gc" | "generalcategory" => category? (normalName value)
  | "sc" | "script" => (Script.find? (normalName value)).map ofTable
  | _ => none

end CharSet

end ShapeLisp.Regex
