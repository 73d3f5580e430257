import ShapeLisp.Proofs.Reader.JsonLiteral
import ShapeLisp.Reader.Source
import ShapeLisp.Regex.Engine

/-!
# Written values read back

A value can be laid out in many ways: white space and comments may stand in front of every
expression and inside parentheses. Whatever the layout, a value that can be written at all is read
back as an equal one, as long as it is not nested too deeply, and is refused for that reason alone
otherwise. Tokens are read back one kind at a time; the induction over values carries the room that
is left and what follows the text.

One kind of regular expression has no text: a source that ends in a backslash, which compiles inside
a comment, would escape the slash that closes it.
-/

namespace ShapeLisp

open ShapeLisp.Text ShapeLisp.Number

/-! ### Values that can be written -/

namespace Value

variable [Regex.Engine]

mutual

/-- How many levels an expression takes, itself included. -/
def nesting : Value → Nat
  | .list items => nestingAll items + 1
  | .quoted inner => nesting inner + 1
  | .json document => document.nesting
  | _ => 1

/-- The greatest nesting of the items of a list. -/
def nestingAll : List Value → Nat
  | [] => 0
  | item :: rest => max (nesting item) (nestingAll rest)

end

mutual

/-- A value that the notation of the language has a text for: no functions, finite numbers, and
names, paths, regular expressions and documents that can be told apart from everything else. -/
def Readable : Value → Prop
  | .nil => True
  | .bool _ => True
  | .num x => x.isFinite = true
  | .str _ => True
  | .sym name => Reader.IsSymbolName name.toList
  | .list items => ReadableAll items
  | .quoted inner => Readable inner
  | .range start stop step =>
    start.isFinite = true ∧ stop.isFinite = true ∧ ∀ x ∈ step, x.isFinite = true
  | .regex literal => Reader.IsRegexLiteral literal
  | .json document => document.IsContainer ∧ document.Readable
  | .pointer path => Reader.IsPointerPath path.toList
  | .builtin _ => False
  | .closure _ _ _ _ => False

/-- Every item of a list can be written. -/
def ReadableAll : List Value → Prop
  | [] => True
  | item :: rest => Readable item ∧ ReadableAll rest

end

mutual

/-- The regular expressions in a value. -/
def regexes : Value → List Regex
  | .regex literal => [literal]
  | .list items => regexesAll items
  | .quoted inner => regexes inner
  | _ => []

/-- The regular expressions in the items of a list. -/
def regexesAll : List Value → List Regex
  | [] => []
  | item :: rest => regexes item ++ regexesAll rest

end

/-- A value without parts that are expressions themselves. -/
def IsAtom : Value → Prop
  | .list _ => False
  | .quoted _ => False
  | _ => True

end Value

namespace Reader

/-! ### Layout -/

/-- White space and comments that end with their line. -/
inductive Gap : List Char → Prop where
  /-- Nothing. -/
  | nil : Gap []
  /-- White space in front. -/
  | blank {c : Char} {rest : List Char} (hc : isWhitespace c = true) (hrest : Gap rest) :
      Gap (c :: rest)
  /-- A comment in front. -/
  | comment {words rest : List Char} (hwords : ∀ c ∈ words, c ≠ '\n') (hrest : Gap rest) :
      Gap (';' :: words ++ '\n' :: rest)

/-- A gap that begins with white space, so that it separates tokens. -/
def Separator (gap : List Char) : Prop :=
  ∃ c rest, isWhitespace c = true ∧ Gap rest ∧ gap = c :: rest

/-- A separator or nothing. -/
def Loose (gap : List Char) : Prop :=
  gap = [] ∨ Separator gap

/-- A comment is skipped up to the end of its line. -/
theorem skipComment_append {words : List Char} (hwords : ∀ c ∈ words, c ≠ '\n')
    (rest : List Char) : skipComment true (words ++ '\n' :: rest) = skipLayout true rest := by
  induction words with
  | nil => rw [List.nil_append, skipComment, if_pos rfl]
  | cons c more ih =>
    rw [List.cons_append, skipComment, if_neg (hwords c List.mem_cons_self),
      ih fun d hd => hwords d (List.mem_cons_of_mem c hd)]

/-- A gap is skipped. -/
theorem Gap.skip {gap : List Char} (h : Gap gap) (rest : List Char) :
    skipLayout true (gap ++ rest) = skipLayout true rest := by
  induction h with
  | nil => rfl
  | blank hc hrest ih => rw [List.cons_append, skipLayout, if_pos hc, ih]
  | comment hwords hrest ih =>
    rw [List.cons_append, List.cons_append, List.append_assoc, List.cons_append, skipLayout,
      if_neg (by decide), if_pos (by decide), skipComment_append hwords, ih]

/-- A separator is a gap. -/
theorem Separator.gap {gap : List Char} (h : Separator gap) : Gap gap := by
  obtain ⟨c, rest, hc, hrest, rfl⟩ := h
  exact .blank hc hrest

/-- What is loose is a gap. -/
theorem Loose.gap {gap : List Char} (h : Loose gap) : Gap gap := by
  rcases h with rfl | hseparator
  · exact .nil
  · exact hseparator.gap

/-- A separator ends a token. -/
theorem Separator.endsToken {gap : List Char} (h : Separator gap) (rest : List Char) :
    EndsToken (gap ++ rest) := by
  obtain ⟨c, more, hc, -, rfl⟩ := h
  exact .whitespace hc _

/-- What is loose does not prolong a token. -/
theorem Loose.endsToken {gap rest : List Char} (h : Loose gap) (hrest : EndsToken rest) :
    EndsToken (gap ++ rest) := by
  rcases h with rfl | hseparator
  · exact hrest
  · exact hseparator.endsToken rest

/-- A character that begins an expression. -/
structure BeginsExpression (c : Char) : Prop where
  /-- It is not white space. -/
  whitespace : isWhitespace c = false
  /-- It begins no comment. -/
  comment : c ≠ ';'
  /-- It closes no list. -/
  parenthesis : c ≠ ')'

/-- Nothing is skipped before an expression. -/
theorem BeginsExpression.skip {comments : Bool} {c : Char} (h : BeginsExpression c)
    (tail : List Char) : skipLayout comments (c :: tail) = c :: tail := by
  rw [skipLayout, if_neg (by rw [h.whitespace]; exact Bool.false_ne_true),
    if_neg (by simp [h.comment])]

/-- The parenthesis that opens a list begins an expression. -/
theorem beginsExpression_opening : BeginsExpression '(' :=
  ⟨by decide, by decide, by decide⟩

/-- A quotation mark begins an expression. -/
theorem beginsExpression_mark : BeginsExpression '\'' :=
  ⟨by decide, by decide, by decide⟩

/-- Nothing is skipped before the parenthesis that closes a list. -/
theorem skipLayout_closing (rest : List Char) : skipLayout true (')' :: rest) = ')' :: rest := by
  rw [skipLayout, if_neg (by decide), if_neg (by decide)]

/-- A character that may stand in a symbol begins an expression. -/
theorem BeginsExpression.of_isSymbolChar {c : Char} (h : isSymbolChar c = true) :
    BeginsExpression c where
  whitespace := (IsFirst.of_isSymbolChar h).whitespace
  comment := ne_of_isSymbolChar h (by decide +kernel)
  parenthesis := ne_of_isSymbolChar h (by decide +kernel)

/-- A character that begins a token. -/
structure BeginsToken (c : Char) : Prop extends BeginsExpression c where
  /-- It is no quotation mark. -/
  quotation : c ≠ '\''
  /-- It opens no list. -/
  list : c ≠ '('
  /-- It opens no object. -/
  object : c ≠ '\x7b'
  /-- It opens no array. -/
  array : c ≠ '['

/-- A character that may stand in a symbol begins a token. -/
theorem BeginsToken.of_isSymbolChar {c : Char} (h : isSymbolChar c = true) : BeginsToken c where
  toBeginsExpression := .of_isSymbolChar h
  quotation := ne_of_isSymbolChar h (by decide +kernel)
  list := ne_of_isSymbolChar h (by decide +kernel)
  object := ne_of_isSymbolChar h (by decide +kernel)
  array := ne_of_isSymbolChar h (by decide +kernel)

/-- A quote begins a token. -/
theorem beginsToken_quote : BeginsToken '"' :=
  ⟨⟨by decide, by decide, by decide⟩, by decide, by decide, by decide, by decide⟩

/-- The text of a number begins like a token. -/
theorem IsNumberText.beginsToken {text : List Char} (h : IsNumberText text) (more : List Char) :
    ∃ c tail, text ++ more = c :: tail ∧ BeginsToken c := by
  cases text with
  | nil => exact absurd rfl h.ne_nil
  | cons c tail =>
    exact ⟨c, tail ++ more, rfl, .of_isSymbolChar (h.isSymbolChar c List.mem_cons_self)⟩

/-- A literal word is a word. -/
theorem isWord_literal {c : Char} {tail : List Char}
    (hall : (c :: tail).all isSymbolChar = true)
    (hc : isAsciiDigit c = false ∧ c ≠ '+' ∧ c ≠ '-' ∧ c ≠ '/') : IsWord (c :: tail) :=
  .of_first (List.all_eq_true.mp hall) hc

section AnyEngine

variable [Regex.Engine]

/-! ### Written values -/

mutual

/-- The texts of a value: its display, in which the spaces between the items of lists are replaced
by separators and gaps may stand after opening parentheses, before closing ones and after quotation
marks. -/
def Rendered : Value → List Char → Prop
  | .list items, text => ∃ gap body close, Gap gap ∧ RenderedAll items body ∧ Loose close ∧
      text = '(' :: (gap ++ (body ++ (close ++ [')'])))
  | .quoted inner, text => ∃ gap body, Gap gap ∧ Rendered inner body ∧
      text = '\'' :: (gap ++ body)
  | value, text => text = value.displayChars

/-- The texts of the items of a list. -/
def RenderedAll : List Value → List Char → Prop
  | [], text => text = []
  | [value], text => Rendered value text
  | value :: rest, text => ∃ first gap others, Rendered value first ∧ Separator gap ∧
      RenderedAll rest others ∧ text = first ++ (gap ++ others)

end

/-- The source texts of a value: a text of it with a gap in front and a separator at the end, both
of which may be missing. -/
def Written (value : Value) (source : List Char) : Prop :=
  ∃ lead body trail, Gap lead ∧ Rendered value body ∧ Loose trail ∧
    source = lead ++ (body ++ trail)

/-! ### Tokens -/

/-- Where a token begins the expression is the token. -/
theorem expression_token {comments : Bool} {c : Char} (h : BeginsToken c) (room : Nat)
    (tail : List Char) : expression comments (room + 1) (c :: tail) = token (c :: tail) := by
  have hquotation : Declines (quotation (expression comments room)) (c :: tail) := by
    refine .of_unexpected (c :: tail) ?_
    rw [quotation]
    exact fun rest htext => h.quotation (List.cons.inj htext).1
  have hlist : Declines (parenthesized comments (expression comments room)) (c :: tail) := by
    refine .of_unexpected (c :: tail) ?_
    rw [parenthesized]
    exact fun rest htext => h.list (List.cons.inj htext).1
  have hjson : Declines (fun text => mapResult Value.json (container (room + 1) text))
      (c :: tail) :=
    (container_declines h.object h.array (room + 1) tail).mapResult _
  rw [expression, h.skip, either_of_declines hquotation, either_of_declines hlist,
    either_of_declines hjson]

/-- The text of a token value: how it begins, and that it is read back. -/
structure ReadsToken (value : Value) (text : List Char) : Prop where
  /-- It begins like a token. -/
  first : ∃ c tail, text = c :: tail ∧ BeginsToken c
  /-- It is read as an equal value. -/
  read : ∀ rest, EndsToken rest →
    ∃ found, token (text ++ rest) = .ok (found, rest) ∧ (found == value) = true

/-- A word is read as a token. -/
theorem IsWord.readsToken {name : List Char} (h : IsWord name) {value : Value}
    (hvalue : (wordValue name == value) = true) : ReadsToken value name where
  first := by
    cases name with
    | nil => exact absurd rfl h.nonempty
    | cons c tail => exact ⟨c, tail, rfl, .of_isSymbolChar (h.all c List.mem_cons_self)⟩
  read rest hrest := ⟨wordValue name, token_word h hrest, hvalue⟩

/-- The name of a symbol stands for the symbol. -/
theorem IsSymbolName.wordValue_eq {name : String} (h : IsSymbolName name.toList) :
    wordValue name.toList = .sym name := by
  rw [wordValue, if_neg h.literal.1, if_neg h.literal.2.1, if_neg h.literal.2.2,
    String.ofList_toList]

omit [Regex.Engine] in
/-- The lesser and the greater of two finite numbers are finite. -/
theorem isFinite_bounds {x y : Float} (hx : x.isFinite = true) (hy : y.isFinite = true) :
    (lesser x y).isFinite = true ∧ (greater x y).isFinite = true := by
  constructor
  · unfold lesser
    split
    · exact hy
    · split
      · exact hx
      · split
        · exact hx
        · exact hy
  · unfold greater
    split
    · exact hy
    · split
      · exact hx
      · split
        · exact hx
        · exact hy

/-- Ranges with the same bounds and steps are equal. -/
theorem beq_range {start start' stop stop' : Float} {step step' : Option Float}
    (hstart : Same start' start) (hstop : Same stop' stop) (hstep : Option.Rel Same step' step)
    (hx : start.isFinite = true) (hy : stop.isFinite = true)
    (hz : ∀ x ∈ step, x.isFinite = true) :
    ((Value.range start' stop' step' : Value) == .range start stop step) = true := by
  obtain ⟨hlesser, hgreater⟩ := isFinite_bounds hx hy
  have hsteps : Value.sameStep step' step = true := by
    cases hstep with
    | none => rfl
    | some hsame => exact hsame.beq (hz _ rfl)
  change Value.beq _ _ = true
  rw [Value.beq, (hstart.lesser hstop).beq hlesser, (hstart.greater hstop).beq hgreater, hsteps]
  rfl

/-- The last backslash in the source of every regular expression of a value escapes a character. -/
def RegexesClosed (value : Value) : Prop :=
  ∀ literal ∈ value.regexes, escapesClosed false literal.source.toList = true

/-- The regular expressions in the items of a list are closed. -/
def AllRegexesClosed (items : List Value) : Prop :=
  ∀ literal ∈ Value.regexesAll items, escapesClosed false literal.source.toList = true

/-- Those in the first item and in the others are closed. -/
theorem AllRegexesClosed.cons {value : Value} {more : List Value}
    (h : AllRegexesClosed (value :: more)) : RegexesClosed value ∧ AllRegexesClosed more :=
  ⟨fun literal hliteral => h literal (List.mem_append_left _ hliteral),
    fun literal hliteral => h literal (List.mem_append_right _ hliteral)⟩

/-- A value without parts that is no JSON literal is read as a token. -/
theorem readsToken_atom {value : Value} (hatom : value.IsAtom) (hreadable : value.Readable)
    (hclosed : RegexesClosed value) (hjson : ∀ document, value ≠ .json document) :
    ReadsToken value value.displayChars := by
  cases value with
  | nil => exact (isWord_literal (by decide +kernel) (by decide)).readsToken rfl
  | bool value =>
    cases value with
    | true => exact (isWord_literal (by decide +kernel) (by decide)).readsToken rfl
    | false => exact (isWord_literal (by decide +kernel) (by decide)).readsToken rfl
  | num x =>
    have hx : x.isFinite = true := hreadable
    obtain ⟨found, hspells, -⟩ := spells_surfaceText hx
    have hfirst := IsNumberText.beginsToken ⟨found, hspells⟩ []
    rw [List.append_nil] at hfirst
    refine ⟨hfirst, fun rest hrest => ?_⟩
    obtain ⟨y, hread, hsame⟩ := token_number hx hrest
    exact ⟨.num y, hread, hsame.beq hx⟩
  | str text =>
    refine ⟨⟨'"', _, rfl, beginsToken_quote⟩, fun rest _ => ⟨.str text, token_string text rest, ?_⟩⟩
    exact beq_self_eq_true text
  | sym name =>
    rw [Value.Readable] at hreadable
    have hvalue : (wordValue name.toList == Value.sym name) = true := by
      rw [hreadable.wordValue_eq]
      exact beq_self_eq_true name
    change ReadsToken (.sym name) name.toList
    exact hreadable.toIsWord.readsToken hvalue
  | range start stop step =>
    obtain ⟨hstart, hstop, hstep⟩ := hreadable
    refine ⟨?_, fun rest hrest => ?_⟩
    · obtain ⟨found, hspells, -⟩ := spells_surfaceText hstart
      change ∃ c tail, Value.rangeText start stop step = c :: tail ∧ BeginsToken c
      cases step with
      | none => simpa [Value.rangeText] using IsNumberText.beginsToken ⟨found, hspells⟩ _
      | some step => simpa [Value.rangeText] using IsNumberText.beginsToken ⟨found, hspells⟩ _
    · obtain ⟨start', stop', step', hread, hsame⟩ := token_range hstart hstop hstep hrest
      exact ⟨_, hread, beq_range hsame.1 hsame.2.1 hsame.2.2 hstart hstop hstep⟩
  | regex literal =>
    have hsource := hclosed literal List.mem_cons_self
    refine ⟨⟨'/', _, rfl, .of_isSymbolChar (by decide +kernel)⟩, fun rest hrest => ?_⟩
    refine ⟨.regex literal, token_regex hreadable hsource hrest, ?_⟩
    change (literal.source == literal.source && literal.flags == literal.flags) = true
    rw [beq_self_eq_true, beq_self_eq_true, Bool.and_self]
  | json document => exact absurd rfl (hjson document)
  | pointer path =>
    refine ⟨⟨'/', _, rfl, .of_isSymbolChar (by decide +kernel)⟩, fun rest hrest => ?_⟩
    exact ⟨.pointer path, token_pointer hreadable hrest, beq_self_eq_true path⟩
  | list items => exact absurd hatom id
  | quoted inner => exact absurd hatom id
  | builtin name => exact absurd hreadable id
  | closure params rest body scope => exact absurd hreadable id

/-! ### Expressions -/

/-- An equal value. -/
def EqualTo (value found : Value) : Prop := (found == value) = true

omit [Regex.Engine] in
/-- The text of a JSON literal begins with an opening mark. -/
theorem container_first {document : Json} (h : document.IsContainer) :
    ∃ c tail, document.text = c :: tail ∧ (c = '[' ∨ c = '\x7b') := by
  cases document with
  | arr items => exact ⟨_, _, rfl, .inl rfl⟩
  | obj members => exact ⟨_, _, rfl, .inr rfl⟩
  | _ => exact absurd h id

/-- Where a JSON literal begins neither a quotation nor a list does. -/
theorem expression_container {document : Json} (hcontainer : document.IsContainer) (room : Nat)
    (rest : List Char) :
    expression true (room + 1) (document.text ++ rest) =
      either (fun text => mapResult .json (container (room + 1) text)) token
        (document.text ++ rest) := by
  obtain ⟨c, tail, hfirst, hc⟩ := container_first hcontainer
  rw [hfirst, List.cons_append]
  have hbegins : BeginsExpression c := by
    rcases hc with rfl | rfl <;> exact ⟨by decide, by decide, by decide⟩
  have hquotation : Declines (quotation (expression true room)) (c :: (tail ++ rest)) := by
    refine .of_unexpected (c :: (tail ++ rest)) ?_
    rcases hc with rfl | rfl <;> rfl
  have hlist : Declines (parenthesized true (expression true room)) (c :: (tail ++ rest)) := by
    refine .of_unexpected (c :: (tail ++ rest)) ?_
    rcases hc with rfl | rfl <;> rfl
  rw [expression, hbegins.skip, either_of_declines hquotation, either_of_declines hlist]

/-- A displayed JSON literal is read back in a room for its nesting. -/
theorem expression_json {document : Json} (hcontainer : document.IsContainer)
    (hreadable : document.Readable) (room : Nat) (rest : List Char) :
    Reads document.nesting room (EqualTo (.json document)) rest
      (expression true room (document.text ++ rest)) := by
  have hread : ∀ room, Reads document.nesting room (EqualTo (.json document)) rest
      (mapResult Value.json (container room (document.text ++ rest))) := by
    intro room
    apply (container_reads hcontainer hreadable room rest).mapResult
    rintro found rfl
    exact Json.beq_self found hreadable
  cases room with
  | zero =>
    have hnesting : ∃ levels, document.nesting = levels + 1 := by
      cases document with
      | arr items => exact ⟨_, rfl⟩
      | obj members => exact ⟨_, rfl⟩
      | _ => exact absurd hcontainer id
    obtain ⟨levels, hlevels⟩ := hnesting
    rw [hlevels]
    exact .zero rfl levels
  | succ room =>
    rw [expression_container hcontainer]
    exact (hread (room + 1)).either

/-- A displayed value without parts is read back. -/
theorem expression_atom {value : Value} (hatom : value.IsAtom) (hreadable : value.Readable)
    (hclosed : RegexesClosed value) (room : Nat) {rest : List Char} (hrest : EndsToken rest) :
    Reads value.nesting room (EqualTo value) rest
      (expression true room (value.displayChars ++ rest)) := by
  by_cases hjson : ∃ document, value = .json document
  · obtain ⟨document, rfl⟩ := hjson
    exact expression_json hreadable.1 hreadable.2 room rest
  · have htoken := readsToken_atom hatom hreadable hclosed fun document h => hjson ⟨document, h⟩
    have hnesting : value.nesting = 0 + 1 := by
      cases value with
      | list items => exact absurd hatom id
      | quoted inner => exact absurd hatom id
      | json document => exact absurd ⟨document, rfl⟩ hjson
      | _ => rfl
    rw [hnesting]
    cases room with
    | zero => exact .zero rfl 0
    | succ room =>
      obtain ⟨c, tail, hfirst, hc⟩ := htoken.first
      obtain ⟨found, hread, hequal⟩ := htoken.read rest hrest
      rw [hfirst, List.cons_append] at hread ⊢
      rw [expression_token hc]
      apply ((Reads.of_ok hread room).imp ?_).succ
      rintro _ rfl
      exact hequal

/-- A value without parts has one text. -/
theorem rendered_atom {value : Value} (hatom : value.IsAtom) {text : List Char}
    (h : Rendered value text) : text = value.displayChars := by
  cases value with
  | list items => exact absurd hatom id
  | quoted inner => exact absurd hatom id
  | _ => exact h

/-- The text of a list or a quotation begins like an expression. -/
theorem rendered_first_of_parts {value : Value} (hatom : ¬ value.IsAtom) {text : List Char}
    (h : Rendered value text) : ∃ c tail, text = c :: tail ∧ BeginsExpression c := by
  cases value with
  | list items =>
    obtain ⟨gap, body, close, -, -, -, rfl⟩ := h
    exact ⟨_, _, rfl, beginsExpression_opening⟩
  | quoted inner =>
    obtain ⟨gap, body, -, -, rfl⟩ := h
    exact ⟨_, _, rfl, beginsExpression_mark⟩
  | _ => exact absurd trivial hatom

/-- The text of a value begins like an expression. -/
theorem rendered_first {value : Value} (hreadable : value.Readable) (hclosed : RegexesClosed value)
    {text : List Char} (h : Rendered value text) :
    ∃ c tail, text = c :: tail ∧ BeginsExpression c := by
  by_cases hatom : value.IsAtom
  · rw [rendered_atom hatom h]
    by_cases hjson : ∃ document, value = .json document
    · obtain ⟨document, rfl⟩ := hjson
      obtain ⟨c, tail, hfirst, hc⟩ := container_first hreadable.1
      refine ⟨c, tail, hfirst, ?_⟩
      rcases hc with rfl | rfl <;> exact ⟨by decide, by decide, by decide⟩
    · have htoken := readsToken_atom hatom hreadable hclosed fun document h => hjson ⟨document, h⟩
      obtain ⟨c, tail, hfirst, hc⟩ := htoken.first
      exact ⟨c, tail, hfirst, hc.toBeginsExpression⟩
  · exact rendered_first_of_parts hatom h

/-- The text of the items of a list is that of the first one, and that of the others after a gap
that separates them. -/
theorem renderedAll_cons {value : Value} {more : List Value} {text : List Char}
    (h : RenderedAll (value :: more) text) :
    ∃ first gap others, Rendered value first ∧ Gap gap ∧ RenderedAll more others ∧
      text = first ++ (gap ++ others) ∧
        ∀ close rest, Loose close → EndsToken rest →
          EndsToken (gap ++ (others ++ (close ++ rest))) := by
  cases more with
  | nil =>
    refine ⟨text, [], [], h, .nil, rfl, by simp, fun close rest hclose hrest => ?_⟩
    exact hclose.endsToken hrest
  | cons second others =>
    obtain ⟨first, gap, body, hfirst, hgap, hothers, rfl⟩ := h
    exact ⟨first, gap, body, hfirst, hgap.gap, hothers, rfl,
      fun close rest _ _ => hgap.endsToken _⟩

/-- There are no more items than characters. -/
theorem length_le_renderedAll {items : List Value} (hreadable : Value.ReadableAll items)
    (hclosed : AllRegexesClosed items) {text : List Char} (h : RenderedAll items text) :
    items.length ≤ text.length := by
  induction items generalizing text with
  | nil => exact Nat.zero_le _
  | cons value more ih =>
    obtain ⟨first, gap, others, hfirst, -, hothers, rfl, -⟩ := renderedAll_cons h
    have hmore := ih hreadable.2 hclosed.cons.2 hothers
    obtain ⟨c, tail, rfl, -⟩ := rendered_first hreadable.1 hclosed.cons.1 hfirst
    simp only [List.length_append, List.length_cons]
    omega

/-- The list that is read from items already known and equal ones. -/
def ListOf (known items : List Value) (found : Value) : Prop :=
  ∃ others, found = .list (known.reverse ++ others) ∧ Value.beqAll others items = true

/-- Where an expression begins after a gap, a round of a list reads it and goes on. -/
theorem elements_cons {gap : List Char} (hgap : Gap gap) {c : Char} (hc : BeginsExpression c)
    (element : Scanner Value) (fuel : Nat) (known : List Value) (tail : List Char) :
    elements true element (fuel + 1) known (gap ++ c :: tail) =
      (commit (element (c :: tail))).bind fun found =>
        elements true element fuel (found.1 :: known) found.2 := by
  rw [elements, hgap.skip, hc.skip]
  split
  · next h => exact absurd (List.cons.inj h).1 hc.parenthesis
  · rfl

/-- Where a list is closed after gaps, the elements read so far are all of them. -/
theorem elements_close {gap close : List Char} (hgap : Gap gap) (hclose : Gap close)
    (element : Scanner Value) (fuel : Nat) (known : List Value) (rest : List Char) :
    elements true element (fuel + 1) known (gap ++ (close ++ ')' :: rest)) =
      .ok (.list known.reverse, rest) := by
  rw [elements, hgap.skip, hclose.skip, skipLayout_closing]
  rfl

/-- One element of a list is read, and then the others. -/
theorem elements_step {value : Value} {more known : List Value} {room fuel : Nat}
    {gap first tail rest : List Char} (hgap : Gap gap)
    (hfirst : ∃ c others, first = c :: others ∧ BeginsExpression c)
    (hread : Reads value.nesting room (EqualTo value) tail (expression true room (first ++ tail)))
    (hmore : ∀ found, Reads (Value.nestingAll more) room (ListOf (found :: known) more) rest
      (elements true (expression true room) fuel (found :: known) tail)) :
    Reads (Value.nestingAll (value :: more)) room (ListOf known (value :: more)) rest
      (elements true (expression true room) (fuel + 1) known (gap ++ (first ++ tail))) := by
  obtain ⟨c, others, rfl, hc⟩ := hfirst
  have hunfold : elements true (expression true room) (fuel + 1) known
      (gap ++ (c :: others ++ tail)) =
        (commit (expression true room (c :: others ++ tail))).bind fun found =>
          elements true (expression true room) fuel (found.1 :: known) found.2 :=
    elements_cons hgap hc _ fuel known _
  rw [hunfold, Value.nestingAll]
  apply Reads.sequence hread.commit
  · intro found hfound hequal
    rw [hfound]
    apply (hmore found).imp
    rintro _ ⟨items, rfl, hitems⟩
    refine ⟨found :: items, by simp, ?_⟩
    rw [Value.beqAll, show Value.beq found value = true from hequal, hitems]
    rfl
  · intro place hplace
    exact ⟨place, by rw [hplace]; rfl⟩

/-- Where a list opens no quotation does. -/
theorem expression_opening (room : Nat) (text : List Char) :
    expression true (room + 1) ('(' :: text) =
      either (parenthesized true (expression true room))
        (either (fun text => mapResult .json (container (room + 1) text)) token) ('(' :: text) := by
  have hquotation : Declines (quotation (expression true room)) ('(' :: text) :=
    .of_unexpected ('(' :: text) rfl
  rw [expression, beginsExpression_opening.skip, either_of_declines hquotation]

/-- A list takes a level and leaves the room for its elements. -/
theorem expression_list {items : List Value} {text rest : List Char}
    (h : ∀ room, Reads (Value.nestingAll items) room (EqualTo (.list items)) rest
      (elements true (expression true room) (text.length + 1) [] text))
    (room : Nat) :
    Reads (Value.list items).nesting room (EqualTo (.list items)) rest
      (expression true room ('(' :: text)) := by
  rw [Value.nesting]
  cases room with
  | zero => exact .zero rfl _
  | succ room =>
    rw [expression_opening]
    apply Reads.either
    exact (h room).succ

/-- A quotation mark takes a level. -/
theorem expression_quoted {inner : Value} {text rest : List Char}
    (h : ∀ room, Reads inner.nesting room (EqualTo inner) rest (expression true room text))
    (room : Nat) :
    Reads (Value.quoted inner).nesting room (EqualTo (.quoted inner)) rest
      (expression true room ('\'' :: text)) := by
  rw [Value.nesting]
  cases room with
  | zero => exact .zero rfl _
  | succ room =>
    have hinner : Reads inner.nesting room (EqualTo (.quoted inner)) rest
        (mapResult .quoted (commit (expression true room text))) :=
      (h room).commit.mapResult fun found hequal => hequal
    rw [expression, beginsExpression_mark.skip]
    apply Reads.either
    exact hinner.succ

/-- A gap in front of an expression is skipped. -/
theorem Gap.reads {gap : List Char} (hgap : Gap gap) {levels room : Nat} {good : Value → Prop}
    {text rest : List Char} (h : Reads levels room good rest (expression true room text)) :
    Reads levels room good rest (expression true room (gap ++ text)) := by
  cases room with
  | zero =>
    -- Without room the gap is not skipped, so the refusal has another place.
    refine ⟨fun hroom => ?_, fun _ => ⟨_, rfl⟩⟩
    obtain ⟨found, hfound, -⟩ := h.fits hroom
    cases hfound
  | succ room =>
    rw [expression] at h ⊢
    rw [hgap.skip]
    exact h

mutual

/-- Every text of a value is read back as an equal value where there is room for its nesting, and
is refused as nested too deeply where there is none. -/
theorem expression_reads : ∀ (value : Value), value.Readable → RegexesClosed value →
    ∀ (text : List Char), Rendered value text → ∀ (room : Nat) (rest : List Char),
      EndsToken rest → Reads value.nesting room (EqualTo value) rest
        (expression true room (text ++ rest))
  | .list items, hreadable, hclosed, text, h, room, rest, hrest => by
    obtain ⟨gap, body, close, hgap, hbody, hclose, rfl⟩ := h
    have hlength := length_le_renderedAll hreadable hclosed hbody
    rw [List.cons_append]
    apply expression_list
    intro room
    -- Every element takes a character at least, so the length of the text is fuel enough.
    have hitems := elements_reads items hreadable hclosed body hbody room
      ((gap ++ (body ++ (close ++ [')'])) ++ rest).length + 1) [] gap close rest hgap hclose
      (by simp only [List.length_append]; omega)
    simp only [List.append_assoc, List.singleton_append] at hitems ⊢
    apply hitems.imp
    rintro _ ⟨others, rfl, hothers⟩
    exact hothers
  | .quoted inner, hreadable, hclosed, text, h, room, rest, hrest => by
    obtain ⟨gap, body, hgap, hbody, rfl⟩ := h
    rw [List.cons_append, List.append_assoc]
    apply expression_quoted
    intro room
    exact hgap.reads (expression_reads inner hreadable hclosed body hbody room rest hrest)
  | .nil, hreadable, hclosed, text, h, room, rest, hrest
  | .bool _, hreadable, hclosed, text, h, room, rest, hrest
  | .num _, hreadable, hclosed, text, h, room, rest, hrest
  | .str _, hreadable, hclosed, text, h, room, rest, hrest
  | .sym _, hreadable, hclosed, text, h, room, rest, hrest
  | .range _ _ _, hreadable, hclosed, text, h, room, rest, hrest
  | .regex _, hreadable, hclosed, text, h, room, rest, hrest
  | .json _, hreadable, hclosed, text, h, room, rest, hrest
  | .pointer _, hreadable, hclosed, text, h, room, rest, hrest => by
    rw [show text = _ from h]
    exact expression_atom (by trivial) hreadable hclosed room hrest

/-- The elements of a list are read back one after the other. -/
theorem elements_reads : ∀ (items : List Value), Value.ReadableAll items →
    AllRegexesClosed items → ∀ (text : List Char), RenderedAll items text →
      ∀ (room fuel : Nat) (known : List Value) (gap close rest : List Char), Gap gap →
        Loose close → items.length < fuel →
          Reads (Value.nestingAll items) room (ListOf known items) rest
            (elements true (expression true room) fuel known
              (gap ++ (text ++ (close ++ ')' :: rest))))
  | [], _, _, text, h, room, fuel + 1, known, gap, close, rest, hgap, hclose, _ => by
    have hread : elements true (expression true room) (fuel + 1) known
        (gap ++ (text ++ (close ++ ')' :: rest))) = .ok (.list known.reverse, rest) := by
      rw [show text = [] from h, List.nil_append, elements_close hgap hclose.gap]
    apply (Reads.of_ok hread room).imp
    rintro _ rfl
    exact ⟨[], by rw [List.append_nil], rfl⟩
  | value :: more, hreadable, hclosed, text, h, room, fuel + 1, known, gap, close, rest, hgap,
      hclose, hfuel => by
    obtain ⟨first, space, others, hfirst, hspace, hothers, rfl, hends⟩ := renderedAll_cons h
    obtain ⟨hvalue, hmore⟩ := hclosed.cons
    rw [List.append_assoc, List.append_assoc]
    apply elements_step hgap (rendered_first hreadable.1 hvalue hfirst)
    · exact expression_reads value hreadable.1 hvalue first hfirst room _
        (hends close (')' :: rest) hclose (.parenthesis rest))
    · intro found
      exact elements_reads more hreadable.2 hmore others hothers room fuel (found :: known) space
        close rest hspace hclose (by simpa using hfuel)

end

/-! ### Source texts -/

mutual

/-- The display of a value is one of its texts. -/
theorem rendered_displayChars : ∀ (value : Value), Rendered value value.displayChars
  | .list items => ⟨[], _, [], .nil, renderedAll_displayAll items, .inl rfl, rfl⟩
  | .quoted inner => ⟨[], _, .nil, rendered_displayChars inner, rfl⟩
  | .nil | .bool _ | .num _ | .str _ | .sym _ | .range _ _ _ | .regex _ | .json _ | .pointer _
  | .builtin _ | .closure _ _ _ _ => rfl

/-- The display of the items of a list is one of their texts. -/
theorem renderedAll_displayAll : ∀ (items : List Value),
    RenderedAll items (Value.displayAll items)
  | [] => rfl
  | [value] => rendered_displayChars value
  | value :: second :: rest =>
    ⟨_, [' '], _, rendered_displayChars value, ⟨' ', [], by decide, .nil, rfl⟩,
      renderedAll_displayAll (second :: rest), rfl⟩

end

/-- The display of a value is one of its source texts. -/
theorem written_display (value : Value) : Written value value.display.toList := by
  refine ⟨[], _, [], .nil, rendered_displayChars value, .inl rfl, ?_⟩
  rw [Value.display, String.toList_ofList, List.nil_append, List.append_nil]

section Step

variable {comments : Bool} {text source : List Char} {fuel : Nat} {known : List Value}

/-- Nothing is read from layout. -/
theorem expressions_nil (h : skipLayout comments text = []) :
    expressions comments source fuel known text = .ok known.reverse := by
  cases fuel with
  | zero => rfl
  | succ fuel => rw [expressions, h]

variable {c : Char} {tail : List Char} (hskip : skipLayout comments text = c :: tail) (hc : c ≠ ')')

include hskip hc

/-- After an expression the others are read. -/
theorem expressions_cons {value : Value} {rest : List Char}
    (h : expression comments maxDepth (c :: tail) = .ok (value, rest)) :
    expressions comments source (fuel + 1) known text =
      expressions comments source fuel (value :: known) rest := by
  rw [expressions, hskip]
  split
  · next hnil => cases hnil
  · next hclose => exact absurd (List.cons.inj hclose).1 hc
  · rw [h]

/-- Where an expression cannot be read the reading ends. -/
theorem expressions_error {stop : Stop}
    (h : expression comments maxDepth (c :: tail) = .error stop) :
    expressions comments source (fuel + 1) known text = .error (stop.report source) := by
  rw [expressions, hskip]
  split
  · next hnil => cases hnil
  · next hclose => exact absurd (List.cons.inj hclose).1 hc
  · rw [h]

end Step

/-- A source text of a value is read as its one expression. -/
theorem readChars_written {value : Value} (hreadable : value.Readable)
    (hclosed : RegexesClosed value) {source : List Char} (h : Written value source) :
    (value.nesting ≤ maxDepth → ∃ found, readChars true source = .ok found ∧ EqualTo value found) ∧
      (maxDepth < value.nesting →
        ∃ error, readChars true source = .error error ∧ error.kind = .tooDeeplyNested) := by
  obtain ⟨lead, body, trail, hlead, hbody, htrail, hsource⟩ := h
  obtain ⟨c, tail, rfl, hc⟩ := rendered_first hreadable hclosed hbody
  have hends : EndsToken trail := by simpa using htrail.endsToken .nil
  have hread := expression_reads value hreadable hclosed _ hbody maxDepth trail hends
  have hskip : skipLayout true source = c :: (tail ++ trail) := by
    rw [hsource, hlead.skip, List.cons_append, hc.skip]
  constructor
  · intro hroom
    obtain ⟨found, hfound, hequal⟩ := hread.fits hroom
    refine ⟨found, ?_, hequal⟩
    have hend : skipLayout true trail = [] := by simpa [skipLayout] using htrail.gap.skip []
    rw [readChars, expressions_cons hskip hc.parenthesis hfound, expressions_nil hend]
    rfl
  · intro hroom
    obtain ⟨place, hplace⟩ := hread.tooDeep hroom
    refine ⟨Stop.report source ⟨true, .tooDeep, place⟩, ?_, rfl⟩
    rw [readChars, expressions_error hskip hc.parenthesis hplace]
    rfl

/-- Written values read back under any layout: every source text of a value that can be written is
read as an equal value, or refused as nested too deeply when it needs more levels than there are.
The display of the value is such a text. -/
theorem written_reads_back (value : Value) (hreadable : value.Readable)
    (hclosed : RegexesClosed value) :
    Written value value.display.toList ∧ ∀ source : String, Written value source.toList →
      (value.nesting ≤ maxDepth → ∃ found, read source = .ok found ∧ (found == value) = true) ∧
      (maxDepth < value.nesting →
        ∃ error, read source = .error error ∧ error.kind = .tooDeeplyNested) :=
  ⟨written_display value, fun _ hwritten => readChars_written hreadable hclosed hwritten⟩

end AnyEngine

/-- A call with a comment between its parts and white space inside a quoted list is read back. -/
theorem written_reads_back_of_comment :
    ∃ found, read "(f ; a note\n '( 1\t\"a b\" ) )" = .ok found ∧
      (found == .list [.sym "f", .quoted (.list [.num 1, .str "a b"])]) = true := by
  have hname : IsSymbolName "f".toList := by
    have hword : IsWord ['f'] := isWord_literal (by decide +kernel) (by decide)
    exact ⟨hword, by decide, by decide, by decide⟩
  have hone : (1 : Float).isFinite = true := by decide +kernel
  have hreadable : (Value.list [.sym "f", .quoted (.list [.num 1, .str "a b"])]).Readable :=
    ⟨hname, ⟨hone, trivial, trivial⟩, trivial⟩
  have hspace : isWhitespace ' ' = true := by decide
  have hcomment : Gap "; a note\n ".toList := by
    have hwords : ∀ c ∈ " a note".toList, c ≠ '\n' := by
      simp
    have hgap := Gap.comment hwords (.blank hspace .nil)
    exact hgap
  have hinner : Rendered (.list [.num 1, .str "a b"]) "( 1\t\"a b\" )".toList :=
    ⟨[' '], _, [' '], .blank hspace .nil,
      ⟨_, ['\t'], _, rfl, ⟨'\t', [], by decide, .nil, rfl⟩, rfl, rfl⟩,
      .inr ⟨' ', [], hspace, .nil, rfl⟩, by decide +kernel⟩
  have hwritten : Written (.list [.sym "f", .quoted (.list [.num 1, .str "a b"])])
      "(f ; a note\n '( 1\t\"a b\" ) )".toList := by
    refine ⟨[], _, [], .nil, ⟨[], _, [' '], .nil, ⟨_, _, _, rfl, ⟨' ', _, hspace, hcomment, rfl⟩,
      ⟨[], _, .nil, hinner, rfl⟩, rfl⟩, .inr ⟨' ', [], hspace, .nil, rfl⟩, rfl⟩, .inl rfl, ?_⟩
    decide +kernel
  have hread := (written_reads_back _ hreadable (fun literal h => absurd h List.not_mem_nil)).2 _
    hwritten
  exact hread.1 (by decide)

/-- A regular expression whose source ends in a comment with a backslash compiles, but the
backslash escapes the slash that should close it. -/
theorem open_escape_not_read_back :
    ¬ ∀ (value : Value) (source : String), value.Readable → Written value source.toList →
      value.nesting ≤ maxDepth → ∃ found, read source = .ok found ∧ (found == value) = true := by
  intro hclaim
  have hcompiles : (Regex.compile "a#\\" "x").isOk = true := by decide +kernel
  have hrefused : (read "/a#\\/x").isOk = false := by decide +kernel
  have hfirst : "a#\\".toList.head?.any startsRegex = true := by decide +kernel
  have hslashes : slashesEscaped false "a#\\".toList = true := by decide +kernel
  have hletters : "x".toList.all isAsciiLetter = true := by decide +kernel
  have htext : "/a#\\/x".toList = '/' :: "a#\\".toList ++ '/' :: "x".toList := by decide +kernel
  cases hcompiled : Regex.compile "a#\\" "x" with
  | error refusal =>
    rw [hcompiled] at hcompiles
    cases hcompiles
  | ok compiled =>
    have hreadable : (Value.regex ⟨"a#\\", "x", compiled, hcompiled⟩).Readable :=
      ⟨hfirst, hslashes, List.all_eq_true.mp hletters⟩
    have hwritten : Written (.regex ⟨"a#\\", "x", compiled, hcompiled⟩) "/a#\\/x".toList := by
      refine ⟨[], _, [], .nil, rfl, .inl rfl, ?_⟩
      rw [List.nil_append, List.append_nil, htext]
      rfl
    obtain ⟨found, hfound, -⟩ := hclaim _ _ hreadable hwritten (Nat.le_of_ble_eq_true rfl)
    rw [hfound] at hrefused
    cases hrefused

end Reader

end ShapeLisp
