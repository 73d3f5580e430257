import ShapeLisp.Proofs.Reader.Progress
import ShapeLisp.Regex.Engine

/-!
# The kinds of bare tokens

A bare token is a text of symbol characters that does not begin with a slash. It is a number, a
range, one of three words, a symbol, or refused because it begins with a digit and is neither number
nor range. The kinds are given by the grammar alone, and every bare token is of exactly one kind:
the scanners, tried one after the other, give each kind its own answer.

The same holds wherever the token stands. A slot is a place in a source text, at any depth inside
lists and quotations, around which everything else can be read; what is read there decides the
value of the whole text.
-/

namespace ShapeLisp.Reader

open ShapeLisp.Text ShapeLisp.Number

section AnyEngine

variable [Regex.Engine]

/-! ### Kinds -/

/-- The text begins with a digit. -/
def BeginsWithDigit (text : List Char) : Prop := text.head?.any isAsciiDigit = true

/-- A bare token: symbol characters, of which the first is no slash. -/
structure IsBare (text : List Char) : Prop where
  /-- It is not empty. -/
  nonempty : text ≠ []
  /-- It is made of symbol characters. -/
  all : ∀ c ∈ text, isSymbolChar c = true
  /-- It does not begin with a slash. -/
  first : text.head? ≠ some '/'

/-- What the grammar says about a bare token: the value that it is, or none where it is refused. -/
inductive Classified (text : List Char) : Option Value → Prop where
  /-- The spelling of a numeral is the number that it denotes. -/
  | number {numeral : Numeral} (h : numeral.Spells text) :
    Classified text (some (.num numeral.value))
  /-- The text of a range is the range of the numbers that its numerals denote. -/
  | range {start stop : Float} {step : Option Float} (h : SpellsRange start stop step text) :
      Classified text (some (.range start stop step))
  /-- A text that is neither and begins with a digit is refused. -/
  | refused (hnumber : ¬ IsNumberText text) (hrange : ¬ IsRangeText text)
      (hdigit : BeginsWithDigit text) : Classified text none
  /-- All others are words: one of three literals, or a symbol. -/
  | word (hnumber : ¬ IsNumberText text) (hrange : ¬ IsRangeText text)
      (hdigit : ¬ BeginsWithDigit text) : Classified text (some (wordValue text))

/-- Every text is of some kind. -/
theorem exists_classified (text : List Char) : ∃ kind, Classified text kind := by
  by_cases hnumber : IsNumberText text
  · obtain ⟨numeral, hspells⟩ := hnumber
    exact ⟨_, .number hspells⟩
  by_cases hrange : IsRangeText text
  · obtain ⟨start, stop, step, hspells⟩ := isRangeText_iff.mp hrange
    exact ⟨_, .range hspells⟩
  by_cases hdigit : BeginsWithDigit text
  · exact ⟨none, .refused hnumber hrange hdigit⟩
  · exact ⟨_, .word hnumber hrange hdigit⟩

/-- A value that no word is. -/
theorem ne_wordValue {value : Value} (h : value ≠ .nil ∧ (∀ truth, value ≠ .bool truth) ∧
    ∀ name, value ≠ .sym name) (text : List Char) : value ≠ wordValue text := by
  obtain ⟨hnil, hbool, hsym⟩ := h
  rcases wordValue_cases text with hvalue | ⟨truth, hvalue⟩ | ⟨hvalue, -⟩
  · exact hvalue ▸ hnil
  · exact hvalue ▸ hbool truth
  · exact hvalue ▸ hsym _

section Kinds

variable {text : List Char}

/-- The numbers are the spellings of numerals. -/
theorem classified_num {x : Float} :
    Classified text (some (.num x)) ↔
      ∃ numeral : Numeral, numeral.Spells text ∧ numeral.value = x := by
  constructor
  · intro h
    generalize hkind : some (Value.num x) = kind at h
    cases h with
    | number hspells => exact ⟨_, hspells, (Value.num.inj (Option.some.inj hkind)).symm⟩
    | word => exact absurd (Option.some.inj hkind) (ne_wordValue (by simp) text)
    | _ => cases hkind
  · rintro ⟨numeral, hspells, rfl⟩
    exact .number hspells

/-- The ranges are the texts of ranges. -/
theorem classified_range {start stop : Float} {step : Option Float} :
    Classified text (some (.range start stop step)) ↔ SpellsRange start stop step text := by
  constructor
  · intro h
    generalize hkind : some (Value.range start stop step) = kind at h
    cases h with
    | range hspells =>
      obtain ⟨rfl, rfl, rfl⟩ := Value.range.inj (Option.some.inj hkind)
      exact hspells
    | word => exact absurd (Option.some.inj hkind) (ne_wordValue (by simp) text)
    | _ => cases hkind
  · exact .range

/-- What is refused begins like a number and is none. -/
theorem classified_none :
    Classified text none ↔ BeginsWithDigit text ∧ ¬ IsNumberText text ∧ ¬ IsRangeText text := by
  constructor
  · rintro (_ | _ | ⟨hnumber, hrange, hdigit⟩ | _)
    exact ⟨hdigit, hnumber, hrange⟩
  · rintro ⟨hdigit, hnumber, hrange⟩
    exact .refused hnumber hrange hdigit

/-- The values of words. -/
theorem classified_word {value : Value} (hnum : ∀ x, value ≠ .num x)
    (hrange : ∀ start stop step, value ≠ .range start stop step) :
    Classified text (some value) ↔ wordValue text = value ∧ ¬ IsNumberText text ∧
      ¬ IsRangeText text ∧ ¬ BeginsWithDigit text := by
  constructor
  · intro h
    generalize hkind : some value = kind at h
    cases h with
    | number => exact absurd (Option.some.inj hkind) (hnum _)
    | range => exact absurd (Option.some.inj hkind) (hrange _ _ _)
    | refused => cases hkind
    | word hnotNumber hnotRange hdigit =>
      exact ⟨(Option.some.inj hkind).symm, hnotNumber, hnotRange, hdigit⟩
  · rintro ⟨rfl, hnotNumber, hnotRange, hdigit⟩
    exact .word hnotNumber hnotRange hdigit

omit [Regex.Engine] in
/-- A word does not begin with a digit. -/
theorem IsWord.not_beginsWithDigit (h : IsWord text) : ¬ BeginsWithDigit text := by
  obtain ⟨c, tail, rfl⟩ := List.exists_cons_of_ne_nil h.nonempty
  rw [BeginsWithDigit, List.head?_cons, Option.any_some, h.digit c tail rfl]
  exact Bool.false_ne_true

/-- A value that one word stands for. -/
theorem classified_literal {c : Char} {tail : List Char} {value : Value}
    (hall : (c :: tail).all isSymbolChar = true)
    (hc : isAsciiDigit c = false ∧ c ≠ '+' ∧ c ≠ '-' ∧ c ≠ '/')
    (hvalue : ∀ text, wordValue text = value ↔ text = c :: tail) :
    Classified text (some value) ↔ text = c :: tail := by
  have hself := (hvalue (c :: tail)).mpr rfl
  have hword : IsWord (c :: tail) := isWord_literal hall hc
  have hclassified : Classified text (some value) ↔ wordValue text = value ∧
      ¬ IsNumberText text ∧ ¬ IsRangeText text ∧ ¬ BeginsWithDigit text := by
    apply classified_word
    · intro x hx
      exact absurd (hx.symm.trans hself.symm) (ne_wordValue (by simp) _)
    · intro start stop step hx
      exact absurd (hx.symm.trans hself.symm) (ne_wordValue (by simp) _)
  rw [hclassified, hvalue]
  constructor
  · exact fun h => h.1
  · rintro rfl
    exact ⟨rfl, hword.number, hword.range, hword.not_beginsWithDigit⟩

/-- The symbols are what nothing else is. -/
theorem classified_symbol :
    Classified text (some (.sym (String.ofList text))) ↔ ¬ IsNumberText text ∧
      ¬ IsRangeText text ∧ ¬ BeginsWithDigit text ∧
        text ∉ [['n', 'i', 'l'], ['t', 'r', 'u', 'e'], ['f', 'a', 'l', 's', 'e']] := by
  have hvalue : wordValue text = .sym (String.ofList text) ↔
      text ∉ [['n', 'i', 'l'], ['t', 'r', 'u', 'e'], ['f', 'a', 'l', 's', 'e']] := by
    rw [wordValue]
    split
    · simp_all
    · split
      · simp_all
      · split <;> simp_all
  rw [classified_word (by simp) (by simp), hvalue]
  constructor
  · rintro ⟨hliteral, hnumber, hrange, hdigit⟩
    exact ⟨hnumber, hrange, hdigit, hliteral⟩
  · rintro ⟨hnumber, hrange, hdigit, hliteral⟩
    exact ⟨hliteral, hnumber, hrange, hdigit⟩

end Kinds

/-! ### The answer of the scanners -/

section Scanners

variable {text rest : List Char}

omit [Regex.Engine] in
/-- What ends a token may not stand in a symbol. -/
theorem isSymbolChar_of_tokenEnd (hrest : tokenEnd rest = .ok ()) :
    ∀ c tail, rest = c :: tail → isSymbolChar c = false :=
  fun c tail h => isSymbolChar_of_isDelimiter (tokenEnd_sound hrest c tail h)

/-- A bare token is a range, a number or a word. -/
theorem IsBare.token (h : IsBare text) (rest : List Char) :
    token (text ++ rest) = either range (either number symbol) (text ++ rest) := by
  obtain ⟨c, tail, rfl⟩ := List.exists_cons_of_ne_nil h.nonempty
  have hquote : c ≠ '"' := ne_of_isSymbolChar (h.all c List.mem_cons_self) (by decide +kernel)
  have hslash : c ≠ '/' := fun hc => h.first (by rw [hc, List.head?_cons])
  exact token_of_first hquote hslash

/-- The spelling of a numeral is read as a number, and not as the start of a range. -/
theorem token_of_spells {numeral : Numeral} (h : numeral.Spells text)
    (hrest : tokenEnd rest = .ok ()) : token (text ++ rest) = .ok (.num numeral.value, rest) := by
  have hnumeral := numeral_append h (endsNumeral_of_tokenEnd hrest)
  have hrange : Declines range (text ++ rest) := by
    rcases exactly_cases ['.', '.'] rest with ⟨left, -, hpoints⟩ | hpoints
    · exact absurd (tokenEnd_sound hrest _ _ hpoints) (by decide +kernel)
    · refine .of_unexpected rest ?_
      simp only [range, hnumeral, bind, Except.bind, hpoints]
      rfl
  rw [IsNumberText.token ⟨numeral, h⟩, either_of_declines hrange]
  exact either_of_ok (number_of_spells h hrest)

/-- What is neither a number nor a range is left to the symbols. -/
theorem token_eq_symbol (h : IsBare text) (hnumber : ¬ IsNumberText text)
    (hrange : ¬ IsRangeText text) (hrest : tokenEnd rest = .ok ()) :
    token (text ++ rest) = symbol (text ++ rest) := by
  have hends := isSymbolChar_of_tokenEnd hrest
  rw [h.token rest,
    either_of_declines (range_recognizes.declines (fun _ h => h.isSymbolChar) h.all hrange hends),
    either_of_declines (number_recognizes.declines (fun _ h => h.isSymbolChar) h.all hnumber hends)]

/-- A text of symbol characters is a word, unless it begins with a digit. -/
theorem symbol_bare (h : IsBare text) (hrest : tokenEnd rest = .ok ()) :
    (BeginsWithDigit text → symbol (text ++ rest) = unexpected (text ++ rest)) ∧
      (¬ BeginsWithDigit text → symbol (text ++ rest) = .ok (wordValue text, rest)) := by
  have hspan := span_append h.all (isSymbolChar_of_tokenEnd hrest)
  obtain ⟨c, tail, rfl⟩ := List.exists_cons_of_ne_nil h.nonempty
  rw [symbol, hspan, BeginsWithDigit, List.head?_cons, Option.any_some]
  constructor
  · intro hdigit
    exact if_pos hdigit
  · intro hdigit
    dsimp only
    rw [if_neg hdigit, hrest]
    rfl

/-- The scanners answer by the kind of a bare token, whatever comes after it. -/
theorem Classified.token {kind : Option Value} (hkind : Classified text kind) (h : IsBare text)
    (hrest : tokenEnd rest = .ok ()) :
    token (text ++ rest) =
      kind.elim (unexpected (text ++ rest)) fun value => .ok (value, rest) := by
  cases hkind with
  | number hspells => exact token_of_spells hspells hrest
  | range hspells =>
    rw [h.token rest]
    exact either_of_ok (range_of_spells hspells hrest)
  | refused hnumber hrange hdigit =>
    rw [token_eq_symbol h hnumber hrange hrest]
    exact (symbol_bare h hrest).1 hdigit
  | word hnumber hrange hdigit =>
    rw [token_eq_symbol h hnumber hrange hrest]
    exact (symbol_bare h hrest).2 hdigit

/-- A bare token is of one kind only. -/
theorem Classified.unique {kind other : Option Value} (hkind : Classified text kind)
    (hother : Classified text other) (h : IsBare text) : kind = other := by
  have hend : tokenEnd [] = .ok () := rfl
  have hanswers := (hkind.token h hend).symm.trans (hother.token h hend)
  cases kind with
  | none =>
    cases other with
    | none => rfl
    | some value => cases hanswers
  | some value =>
    cases other with
    | none => cases hanswers
    | some value' => rw [(Prod.mk.inj (Except.ok.inj hanswers)).1]

end Scanners

/-! ### Expressions one after the other -/

omit [Regex.Engine] in
/-- Nothing is skipped where layout was skipped. -/
theorem skipLayout_idem (comments : Bool) (text : List Char) :
    skipLayout comments (skipLayout comments text) = skipLayout comments text ∧
      skipLayout comments (skipComment comments text) = skipComment comments text := by
  induction text with
  | nil => exact ⟨rfl, rfl⟩
  | cons c rest ih =>
    constructor
    · rw [skipLayout]
      split
      · exact ih.1
      · next hspace =>
        split
        · exact ih.2
        · next hcomment => rw [skipLayout, if_neg hspace, if_neg hcomment]
    · rw [skipComment]
      split
      · exact ih.1
      · exact ih.2

/-- An expression is read after the layout before it. -/
theorem expression_skipLayout (comments : Bool) (room : Nat) (text : List Char) :
    expression comments (room + 1) (skipLayout comments text) =
      expression comments (room + 1) text := by
  rw [expression, expression, (skipLayout_idem comments text).1]

/-- After layout something begins that does not close a list. -/
def Begins (comments : Bool) (text : List Char) : Prop :=
  ∃ c tail, skipLayout comments text = c :: tail ∧ c ≠ ')'

/-- What is read as an expression begins. -/
theorem begins_of_expression {comments : Bool} {room : Nat} {text rest : List Char} {value : Value}
    (h : expression comments room text = .ok (value, rest)) : Begins comments text := by
  cases room with
  | zero => cases h
  | succ room =>
    cases hskip : skipLayout comments text with
    | nil =>
      rw [← expression_skipLayout, hskip] at h
      exact absurd h (expression_refusesEnd comments (room + 1) _)
    | cons c tail =>
      refine ⟨c, tail, hskip, ?_⟩
      rintro rfl
      rw [expression, hskip] at h
      cases h

section Rounds

variable {comments : Bool} {text : List Char} (known : List Value) (h : Begins comments text)

include h

/-- Where something begins, a round of a list reads it. -/
theorem listRound_eq (room : Nat) :
    listRound comments (expression comments (room + 1)) known text =
      match expression comments (room + 1) text with
      | .ok (value, rest) => .inl (value :: known, rest)
      | .error stop => .inr (.error { stop with committed := true }) := by
  obtain ⟨c, tail, hskip, hc⟩ := h
  have hmark : (skipLayout comments text).head? ≠ some ')' := by
    rw [hskip, List.head?_cons]
    exact fun hmark => hc (Option.some.inj hmark)
  rw [listRound, itemRound, if_neg hmark, expression_skipLayout]
  cases expression comments (room + 1) text with
  | ok found => rfl
  | error stop => rfl

/-- Where something begins, a round of a source text reads it. -/
theorem sourceRound_eq (source : List Char) :
    sourceRound comments source known text =
      match expression comments maxDepth text with
      | .ok (value, rest) => .inl (value :: known, rest)
      | .error stop => .inr (.error (stop.report source)) := by
  obtain ⟨c, tail, hskip, hc⟩ := h
  have hread : expression comments maxDepth (skipLayout comments text) =
      expression comments maxDepth text := expression_skipLayout ..
  unfold sourceRound
  split
  · next hnil => cases hskip.symm.trans hnil
  · next rest hclose => exact absurd (List.cons.inj (hskip.symm.trans hclose)).1 hc
  · rewrite [hread]
    cases expression comments maxDepth text with
    | ok found => rfl
    | error stop => rfl

end Rounds

/-- The text is read as these values one after the other, each in the given room, and then this
text is left. -/
inductive ReadsAll (comments : Bool) (room : Nat) : List Char → List Value → List Char → Prop where
  /-- No value is read. -/
  | nil {text : List Char} : ReadsAll comments room text [] text
  /-- A value is read and then the others. -/
  | cons {text rest left : List Char} {value : Value} {values : List Value}
      (hfirst : expression comments room text = .ok (value, rest))
      (hothers : ReadsAll comments room rest values left) :
      ReadsAll comments room text (value :: values) left

/-- A loop whose rounds keep what they read goes past all the values. -/
theorem ReadsAll.runsTo {α : Type} {comments : Bool} {room : Nat}
    {round : List Value → List Char → (List Value × List Char) ⊕ α}
    (hround : ∀ known text value rest, expression comments room text = .ok (value, rest) →
      round known text = .inl (value :: known, rest))
    {text rest : List Char} {values known : List Value} {answer : α}
    (h : ReadsAll comments room text values rest)
    (hrest : RunsTo round (values.reverse ++ known) rest answer) :
    RunsTo round known text answer := by
  induction h generalizing known with
  | nil => exact hrest
  | cons hfirst _ ih =>
    rw [List.reverse_cons, List.append_assoc, List.singleton_append] at hrest
    exact .goes (hround _ _ _ _ hfirst) (ih hrest)

/-- The values before a place of a list are kept. -/
theorem ReadsAll.list {comments : Bool} {room : Nat} {text rest : List Char}
    {values known : List Value} {answer : Except Stop (Value × List Char)}
    (h : ReadsAll comments room text values rest)
    (hrest : RunsTo (listRound comments (expression comments room)) (values.reverse ++ known) rest
      answer) :
    RunsTo (listRound comments (expression comments room)) known text answer := by
  refine h.runsTo ?_ hrest
  intro known text value rest hread
  cases room with
  | zero => cases hread
  | succ room => rw [listRound_eq known (begins_of_expression hread), hread]

/-- The values before a place of a source text are kept. -/
theorem ReadsAll.source {comments : Bool} {source text rest : List Char}
    {values known : List Value} {answer : Except ParseError (List Value)}
    (h : ReadsAll comments maxDepth text values rest)
    (hrest : RunsTo (sourceRound comments source) (values.reverse ++ known) rest answer) :
    RunsTo (sourceRound comments source) known text answer := by
  refine h.runsTo ?_ hrest
  intro known text value rest hread
  rw [sourceRound_eq known (begins_of_expression hread), hread]

/-- A list is read as its loop says. -/
theorem expression_of_runsTo {comments : Bool} {room : Nat} {text body : List Char}
    {answer : Except Stop (Value × List Char)} (hopen : skipLayout comments text = '(' :: body)
    (h : RunsTo (listRound comments (expression comments room)) [] body answer) :
    expression comments (room + 1) text = answer := by
  have hlist : parenthesized comments (expression comments room) ('(' :: body) = answer :=
    (elements_runsTo comments room [] body).unique h
  have hcommitted := elements_isCommitted comments (expression comments room) (body.length + 1) []
    body
  have hquotation : Declines (quotation (expression comments room)) ('(' :: body) :=
    .of_unexpected ('(' :: body) rfl
  rw [expression, hopen, either_of_declines hquotation, either, hlist]
  cases answer with
  | ok found => rfl
  | error stop => exact if_pos (hcommitted stop hlist)

/-- A quoted expression is read after its quotation mark. -/
theorem expression_quotation {comments : Bool} {room : Nat} {text body : List Char}
    (hopen : skipLayout comments text = '\'' :: body) :
    expression comments (room + 1) text =
      mapResult .quoted (commit (expression comments room body)) := by
  rw [expression, hopen, either, quotation]
  cases expression comments room body with
  | ok found => rfl
  | error stop => rfl

/-! ### Slots -/

/-- A slot of an expression text: a place inside its lists and quotations where an expression is
read. The text is read in the outer room and leaves `left`, the place is read in the inner room and
leaves `rest`, and `fill` is the value of the text by the value at the place. Everything around the
slot can be read. -/
inductive Slot (comments : Bool) :
    (outer : Nat) → (text left : List Char) → (inner : Nat) → (place rest : List Char) →
      (fill : Value → Value) → Prop where
  /-- The text itself. -/
  | here {room : Nat} {text left : List Char} : Slot comments room text left room text left id
  /-- A slot of an element of a list. -/
  | element {room inner : Nat} {text body middle tail closing left place rest : List Char}
      {before after : List Value} {fill : Value → Value}
      (hopen : skipLayout comments text = '(' :: body)
      (hbefore : ReadsAll comments room body before middle)
      (hslot : Slot comments room middle tail inner place rest fill)
      (hafter : ReadsAll comments room tail after closing)
      (hclose : skipLayout comments closing = ')' :: left) :
      Slot comments (room + 1) text left inner place rest
        fun value => .list (before ++ fill value :: after)
  /-- A slot of a quoted expression. -/
  | quoted {room inner : Nat} {text body left place rest : List Char} {fill : Value → Value}
      (hopen : skipLayout comments text = '\'' :: body)
      (hslot : Slot comments room body left inner place rest fill) :
      Slot comments (room + 1) text left inner place rest fun value => .quoted (fill value)

namespace Slot

variable {comments : Bool} {outer inner : Nat} {text left place rest : List Char}
  {fill : Value → Value}

/-- A slot has no more room than the text. -/
theorem inner_le (h : Slot comments outer text left inner place rest fill) : inner ≤ outer := by
  induction h with
  | here => exact Nat.le_refl _
  | element _ _ _ _ _ ih => exact Nat.le_succ_of_le ih
  | quoted _ _ ih => exact Nat.le_succ_of_le ih

/-- Different values in a slot give different values of the text. -/
theorem injective (h : Slot comments outer text left inner place rest fill) :
    Function.Injective fill := by
  induction h with
  | here => exact Function.injective_id
  | element _ _ _ _ _ ih =>
    intro value other hequal
    have hitems := List.append_cancel_left (Value.list.inj hequal)
    exact ih (List.cons.inj hitems).1
  | quoted _ _ ih =>
    intro value other hequal
    exact ih (Value.quoted.inj hequal)

/-- Where the slot holds a value the text is read as its value. -/
theorem read (h : Slot comments outer text left inner place rest fill) {value : Value}
    (hread : expression comments inner place = .ok (value, rest)) :
    expression comments outer text = .ok (fill value, left) := by
  induction h with
  | here => exact hread
  | @element room inner text body middle tail closing left place rest before after fill hopen
      hbefore hslot hafter hclose ih =>
    have hitem := ih hread
    have hsequence : ReadsAll comments room middle (fill value :: after) closing :=
      .cons hitem hafter
    apply expression_of_runsTo hopen
    apply hbefore.list
    apply hsequence.list
    apply RunsTo.done
    have hmark : (skipLayout comments closing).head? = some ')' := by rw [hclose, List.head?_cons]
    rw [listRound, itemRound, if_pos hmark, hclose]
    simp
  | quoted hopen _ ih => rw [expression_quotation hopen, ih hread, commit, mapResult]

/-- Where the slot cannot be read the text cannot be read for the same reason. -/
theorem stop (h : Slot comments outer text left inner place rest fill) (hinner : 0 < inner)
    (hbegins : Begins comments place) {stop : Stop}
    (hstop : expression comments inner place = .error stop) :
    Begins comments text ∧
      ∃ committed, expression comments outer text = .error { stop with committed } := by
  induction h with
  | here => exact ⟨hbegins, stop.committed, hstop⟩
  | @element room inner text body middle tail closing left place rest before after fill hopen
      hbefore hslot hafter hclose ih =>
    obtain ⟨hmiddle, committed, hitem⟩ := ih hinner hbegins hstop
    refine ⟨⟨'(', body, hopen, by decide⟩, true, ?_⟩
    apply expression_of_runsTo hopen
    apply hbefore.list
    apply RunsTo.done
    have hroom := Nat.lt_of_lt_of_le hinner hslot.inner_le
    obtain ⟨room, rfl⟩ := Nat.exists_eq_succ_of_ne_zero hroom.ne'
    rw [listRound_eq _ hmiddle, hitem]
  | @quoted room inner text body left place rest fill hopen hslot ih =>
    obtain ⟨-, committed, hitem⟩ := ih hinner hbegins hstop
    refine ⟨⟨'\'', body, hopen, by decide⟩, true, ?_⟩
    rw [expression_quotation hopen, hitem, commit, mapResult]

end Slot

/-- The value of a source text with these expressions. -/
def collected : List Value → Value
  | [value] => value
  | values => .list values

/-- The value of a source text depends on each of its expressions. -/
theorem collected_injective (before after : List Value) :
    Function.Injective fun item => collected (before ++ item :: after) := by
  intro item other hequal
  by_cases halone : before = [] ∧ after = []
  · obtain ⟨rfl, rfl⟩ := halone
    exact hequal
  · have hlist : ∀ item, collected (before ++ item :: after) = .list (before ++ item :: after) := by
      intro item
      unfold collected
      split
      · next single hsingle =>
        cases before with
        | nil => exact absurd ⟨rfl, (List.cons.inj hsingle).2⟩ halone
        | cons first more => simp at hsingle
      · rfl
    dsimp only at hequal
    rw [hlist, hlist] at hequal
    have hitems := List.append_cancel_left (Value.list.inj hequal)
    exact (List.cons.inj hitems).1

/-- A slot of a source text: a slot of one of its expressions, where all others can be read. -/
inductive SourceSlot (comments : Bool) (source : List Char) :
    (inner : Nat) → (place rest : List Char) → (fill : Value → Value) → Prop where
  /-- A slot inside an expression. -/
  | inside {inner : Nat} {middle tail closing place rest : List Char}
      {before after : List Value} {fill : Value → Value}
      (hbefore : ReadsAll comments maxDepth source before middle)
      (hslot : Slot comments maxDepth middle tail inner place rest fill)
      (hafter : ReadsAll comments maxDepth tail after closing)
      (hend : skipLayout comments closing = []) :
      SourceSlot comments source inner place rest
        fun value => collected (before ++ fill value :: after)

/-- The text as a whole is a slot of itself. -/
theorem SourceSlot.whole (comments : Bool) (source : List Char) :
    SourceSlot comments source maxDepth source [] id :=
  .inside .nil .here .nil rfl

section SourceSlots

variable {comments : Bool} {source : List Char}

/-- A source text with an expression has the value of its expressions. -/
theorem readChars_of_runsTo {values : List Value} (hvalues : values ≠ [])
    (h : RunsTo (sourceRound comments source) [] source (.ok values)) :
    readChars comments source = .ok (collected values) := by
  have hread := expressions_runsTo.unique h
  rw [readChars, hread]
  cases values with
  | nil => exact absurd rfl hvalues
  | cons value others =>
    cases others with
    | nil => rfl
    | cons other more => rfl

/-- An error of the loop is the error of the source text. -/
theorem readChars_of_runsTo_error {error : ParseError}
    (h : RunsTo (sourceRound comments source) [] source (.error error)) :
    readChars comments source = .error error := by
  have hread := expressions_runsTo.unique h
  rw [readChars, hread]
  rfl

variable {inner : Nat} {place rest : List Char} {fill : Value → Value}

/-- Different values in a slot give different values of the source text. -/
theorem SourceSlot.injective (h : SourceSlot comments source inner place rest fill) :
    Function.Injective fill := by
  cases h with
  | inside _ hslot _ _ => exact (collected_injective _ _).comp hslot.injective

/-- Where the slot holds a value the source text is read as its value. -/
theorem SourceSlot.read (h : SourceSlot comments source inner place rest fill) {value : Value}
    (hread : expression comments inner place = .ok (value, rest)) :
    readChars comments source = .ok (fill value) := by
  cases h with
  | inside hbefore hslot hafter hend =>
    have hsequence := ReadsAll.cons (hslot.read hread) hafter
    apply readChars_of_runsTo (by simp)
    apply hbefore.source
    apply hsequence.source
    apply RunsTo.done
    rw [sourceRound, hend]
    simp

/-- Where the slot cannot be read the error of the source text is about that place. -/
theorem SourceSlot.stop (h : SourceSlot comments source inner place rest fill) (hinner : 0 < inner)
    (hbegins : Begins comments place) {stop : Stop}
    (hstop : expression comments inner place = .error stop) :
    readChars comments source = .error (stop.report source) := by
  cases h with
  | inside hbefore hslot _ _ =>
    obtain ⟨hmiddle, committed, hitem⟩ := hslot.stop hinner hbegins hstop
    apply readChars_of_runsTo_error
    apply hbefore.source
    apply RunsTo.done
    rw [sourceRound_eq _ hmiddle, hitem]
    rfl

/-- What a kind says about the outcome of a source text: the value that is filled in, or that the
syntax is invalid. -/
def Decides (fill : Value → Value) (outcome : Except ParseError Value) : Option Value → Prop
  | some value => outcome = .ok (fill value)
  | none => ∃ error, outcome = .error error ∧ error.kind = .invalidSyntax

/-- In a slot a bare token decides the value of the source text by its kind. -/
theorem SourceSlot.classified {text : List Char} {kind : Option Value}
    (h : SourceSlot comments source inner place rest fill) (hinner : 0 < inner)
    (hbare : IsBare text) (hplace : skipLayout comments place = text ++ rest)
    (hrest : tokenEnd rest = .ok ()) (hkind : Classified text kind) :
    Decides fill (readChars comments source) kind := by
  obtain ⟨c, tail, htext⟩ := List.exists_cons_of_ne_nil hbare.nonempty
  have hc : isSymbolChar c = true := hbare.all c (by simp [htext])
  have hbegins : Begins comments place :=
    ⟨c, tail ++ rest, by rw [hplace, htext, List.cons_append],
      (BeginsExpression.of_isSymbolChar hc).parenthesis⟩
  obtain ⟨room, rfl⟩ := Nat.exists_eq_succ_of_ne_zero hinner.ne'
  have hread : expression comments (room + 1) place = token (text ++ rest) := by
    rw [← expression_skipLayout, hplace, htext, List.cons_append]
    exact expression_token (.of_isSymbolChar hc) room (tail ++ rest)
  rw [hkind.token hbare hrest] at hread
  cases kind with
  | some value => exact h.read hread
  | none =>
    refine ⟨_, h.stop hinner hbegins hread, ?_⟩
    simp [Stop.report, htext, ParseError.withContext]

end SourceSlots

/-! ### The reader as a whole -/

/-- The kinds of a bare token as the outcome of reading shows them, where `fill` is the value of the
whole source text by the value of the token. -/
structure ShowsKind (text : List Char) (fill : Value → Value) (outcome : Except ParseError Value) :
    Prop where
  /-- It is a number exactly for the spellings of numerals, and then the one denoted. -/
  number : ∀ x, outcome = .ok (fill (.num x)) ↔
    ∃ numeral : Numeral, numeral.Spells text ∧ numeral.value = x
  /-- It is a range exactly for the texts of ranges, and then the one of the denoted numbers. -/
  range : ∀ start stop step, outcome = .ok (fill (.range start stop step)) ↔
    SpellsRange start stop step text
  /-- It is the empty value exactly for its word. -/
  nil : outcome = .ok (fill .nil) ↔ text = ['n', 'i', 'l']
  /-- It is true exactly for its word. -/
  true : outcome = .ok (fill (.bool true)) ↔ text = ['t', 'r', 'u', 'e']
  /-- It is false exactly for its word. -/
  false : outcome = .ok (fill (.bool false)) ↔ text = ['f', 'a', 'l', 's', 'e']
  /-- It is refused exactly when it begins with a digit and is neither a number nor a range. -/
  refused : (∃ error, outcome = .error error ∧ error.kind = .invalidSyntax) ↔
    BeginsWithDigit text ∧ ¬ IsNumberText text ∧ ¬ IsRangeText text
  /-- It is the symbol with its name exactly when it is nothing else. -/
  symbol : outcome = .ok (fill (.sym (String.ofList text))) ↔ ¬ IsNumberText text ∧
    ¬ IsRangeText text ∧ ¬ BeginsWithDigit text ∧
      text ∉ [['n', 'i', 'l'], ['t', 'r', 'u', 'e'], ['f', 'a', 'l', 's', 'e']]

/-- An outcome that is decided by the kind shows the kind. -/
theorem showsKind_of_classified {text : List Char} {fill : Value → Value}
    {outcome : Except ParseError Value} (hfill : Function.Injective fill)
    (h : ∀ kind, Classified text kind → Decides fill outcome kind) :
    ShowsKind text fill outcome := by
  have hvalue : ∀ value, outcome = .ok (fill value) ↔ Classified text (some value) := by
    intro value
    refine ⟨fun houtcome => ?_, h (some value)⟩
    obtain ⟨kind, hkind⟩ := exists_classified text
    have hdecided := h kind hkind
    cases kind with
    | some other =>
      have hequal := hfill (Except.ok.inj (houtcome.symm.trans hdecided))
      exact hequal ▸ hkind
    | none =>
      obtain ⟨error, herror, -⟩ := hdecided
      cases houtcome.symm.trans herror
  have hrefused : (∃ error, outcome = .error error ∧ error.kind = .invalidSyntax) ↔
      Classified text none := by
    refine ⟨fun ⟨error, herror, _⟩ => ?_, h none⟩
    obtain ⟨kind, hkind⟩ := exists_classified text
    have hdecided := h kind hkind
    cases kind with
    | some other => cases herror.symm.trans hdecided
    | none => exact hkind
  refine ⟨fun x => (hvalue _).trans classified_num,
    fun start stop step => (hvalue _).trans classified_range, (hvalue _).trans ?_,
    (hvalue _).trans ?_, (hvalue _).trans ?_, hrefused.trans classified_none,
    (hvalue _).trans classified_symbol⟩
  · exact classified_literal (by decide +kernel) (by decide) fun text => by
      rw [wordValue]
      grind
  · exact classified_literal (by decide +kernel) (by decide) fun text => by
      rw [wordValue]
      grind
  · exact classified_literal (by decide +kernel) (by decide) fun text => by
      rw [wordValue]
      grind

/-- Every bare token is of exactly one kind and is read by its kind, alone and in every slot of a
source text that leaves room for it: as an expression of the text, as an element of a list or after
a quotation mark, at any depth and with anything around it that can be read. -/
theorem bare_tokens_show_their_kind {text : List Char} (hbare : IsBare text) :
    (∃! kind, Classified text kind) ∧ ShowsKind text id (read (String.ofList text)) ∧
      ∀ comments source inner place rest fill, SourceSlot comments source inner place rest fill →
        0 < inner → skipLayout comments place = text ++ rest → tokenEnd rest = .ok () →
          ShowsKind text fill (readChars comments source) := by
  have hslots : ∀ comments source inner place rest fill,
      SourceSlot comments source inner place rest fill → 0 < inner →
        skipLayout comments place = text ++ rest → tokenEnd rest = .ok () →
          ShowsKind text fill (readChars comments source) := by
    intro comments source inner place rest fill hslot hinner hplace hrest
    apply showsKind_of_classified hslot.injective
    intro kind hkind
    exact hslot.classified hinner hbare hplace hrest hkind
  have hunique : ∃! kind, Classified text kind := by
    obtain ⟨kind, hkind⟩ := exists_classified text
    exact ⟨kind, hkind, fun other hother => hother.unique hkind hbare⟩
  refine ⟨hunique, ?_, hslots⟩
  have hskip : skipLayout true text = text ++ [] := by
    obtain ⟨c, tail, rfl⟩ := List.exists_cons_of_ne_nil hbare.nonempty
    have hc := hbare.all c List.mem_cons_self
    rw [(BeginsExpression.of_isSymbolChar hc).skip, List.append_nil]
  have hwhole := hslots true text maxDepth text [] id (.whole true text) (by decide) hskip rfl
  rw [read, readWith, String.toList_ofList]
  exact hwhole

end AnyEngine

/-- The number in `(f -12)` is read as such. -/
theorem bare_tokens_show_their_kind_of_number :
    IsBare ['-', '1', '2'] ∧ readChars true ['(', 'f', ' ', '-', '1', '2', ')'] =
      .ok (.list [.sym "f", .num (Numeral.value ⟨true, ['1', '2'], [], 0⟩)]) := by
  have hbare : IsBare ['-', '1', '2'] :=
    ⟨by decide, List.all_eq_true.mp (by decide +kernel), by decide⟩
  have hdigits : DigitText ['1', '2'] := ⟨by decide, List.all_eq_true.mp (by decide)⟩
  have hspells : Numeral.Spells ⟨true, ['1', '2'], [], 0⟩ (['-'] ++ ['1', '2'] ++ [] ++ []) :=
    .parts .minus hdigits .missing .missing
  have hfirst : ReadsAll true 63 ['f', ' ', '-', '1', '2', ')'] [.sym "f"]
      [' ', '-', '1', '2', ')'] := .cons rfl .nil
  have hslot : SourceSlot true ['(', 'f', ' ', '-', '1', '2', ')'] 63 [' ', '-', '1', '2', ')']
      [')'] fun value => collected ([] ++ .list ([.sym "f"] ++ id value :: []) :: []) :=
    .inside .nil (.element rfl hfirst .here .nil rfl) .nil rfl
  have hkind := (bare_tokens_show_their_kind hbare).2.2 true _ _ _ _ _ hslot (by decide) rfl rfl
  exact ⟨hbare, (hkind.number _).mpr ⟨_, hspells, rfl⟩⟩

end ShapeLisp.Reader
