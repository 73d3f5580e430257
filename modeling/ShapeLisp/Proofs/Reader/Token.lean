import Mathlib
import ShapeLisp.Proofs.Number.Written
import ShapeLisp.Proofs.Reader.Scanner
import ShapeLisp.Value.Display

/-!
# Written tokens read back

Each kind of token is read back from the text it is displayed as, whatever follows, as long as it
ends the token. The readings are tried in a fixed order, so for each kind the earlier ones have to
decline: a number is no range because two points are missing, and a symbol is neither because it
is not the text of one.
-/

namespace ShapeLisp.Reader

open ShapeLisp.Text ShapeLisp.Number

/-! ### First characters -/

section First

variable {c : Char} {tail : List Char}

/-- A string begins with a quote. -/
theorem stringText_declines (h : c ≠ '"') : Declines stringText (c :: tail) := by
  refine .of_unexpected (c :: tail) ?_
  rw [stringText]
  intro rest htext
  exact h (List.cons.inj htext).1

variable [Regex.Engine]

/-- A pointer begins with a slash. -/
theorem pointer_declines (h : c ≠ '/') : Declines pointer (c :: tail) := by
  refine .of_unexpected (c :: tail) ?_
  rw [pointer]
  intro path htext
  exact h (List.cons.inj htext).1

/-- A regular expression begins with a slash. -/
theorem regex_declines (h : c ≠ '/') : Declines regex (c :: tail) := by
  refine .of_unexpected (c :: tail) ?_
  rw [regex]
  intro body htext
  exact h (List.cons.inj htext).1

/-- A token that begins with neither is a range, a number or a symbol. -/
theorem token_of_first (hquote : c ≠ '"') (hslash : c ≠ '/') :
    token (c :: tail) = either range (either number symbol) (c :: tail) := by
  have hstring : Declines string (c :: tail) := (stringText_declines hquote).mapResult _
  rw [token, either_of_declines hstring, either_of_declines (pointer_declines hslash),
    either_of_declines (regex_declines hslash)]

end First

/-! ### Numbers and ranges -/

/-- The text of a number. -/
def IsNumberText (text : List Char) : Prop := ∃ numeral : Numeral, numeral.Spells text

/-- The text of a range: two numbers with two points between them, and a third one after two
slashes that may be missing. -/
inductive IsRangeText : List Char → Prop where
  /-- A range without a step. -/
  | span {start stop : List Char} (hstart : IsNumberText start) (hstop : IsNumberText stop) :
      IsRangeText (start ++ '.' :: '.' :: stop)
  /-- A range with a step. -/
  | step {start stop step : List Char} (hstart : IsNumberText start) (hstop : IsNumberText stop)
      (hstep : IsNumberText step) :
      IsRangeText (start ++ '.' :: '.' :: stop ++ '/' :: '/' :: step)

/-- The texts of a range with the given bounds and the given step. -/
inductive SpellsRange : Float → Float → Option Float → List Char → Prop where
  /-- Two numerals with two points between them. -/
  | span {start stop : Numeral} {startText stopText : List Char} (hstart : start.Spells startText)
      (hstop : stop.Spells stopText) :
      SpellsRange start.value stop.value none (startText ++ '.' :: '.' :: stopText)
  /-- A third numeral after two slashes. -/
  | step {start stop step : Numeral} {startText stopText stepText : List Char}
      (hstart : start.Spells startText) (hstop : stop.Spells stopText)
      (hstep : step.Spells stepText) :
      SpellsRange start.value stop.value (some step.value)
        (startText ++ '.' :: '.' :: stopText ++ '/' :: '/' :: stepText)

/-- The text of a range spells some range. -/
theorem isRangeText_iff {text : List Char} :
    IsRangeText text ↔ ∃ start stop step, SpellsRange start stop step text := by
  constructor
  · intro h
    cases h with
    | span hstart hstop =>
      obtain ⟨start, hstart⟩ := hstart
      obtain ⟨stop, hstop⟩ := hstop
      exact ⟨_, _, _, .span hstart hstop⟩
    | step hstart hstop hstep =>
      obtain ⟨start, hstart⟩ := hstart
      obtain ⟨stop, hstop⟩ := hstop
      obtain ⟨step, hstep⟩ := hstep
      exact ⟨_, _, _, .step hstart hstop hstep⟩
  · rintro ⟨start, stop, step, h⟩
    cases h with
    | span hstart hstop => exact .span ⟨_, hstart⟩ ⟨_, hstop⟩
    | step hstart hstop hstep => exact .step ⟨_, hstart⟩ ⟨_, hstop⟩ ⟨_, hstep⟩

/-- A numeral is read from its spelling. -/
theorem numeral_append {found : Numeral} {spelling rest : List Char} (h : found.Spells spelling)
    (hrest : EndsNumeral rest) : numeral (spelling ++ rest) = .ok (found.value, rest) := by
  rw [numeral, scanNumeral_append h hrest]

/-- What is read as a numeral is the text of one. -/
theorem numeral_sound {text rest : List Char} {x : Float} (h : numeral text = .ok (x, rest)) :
    ∃ spelling, IsNumberText spelling ∧ text = spelling ++ rest := by
  rw [numeral] at h
  split at h
  · next found left hscan =>
    obtain ⟨spelling, hspells, htext⟩ := scanNumeral_sound hscan
    obtain ⟨-, rfl⟩ := Prod.mk.inj (Except.ok.inj h)
    exact ⟨spelling, ⟨found, hspells⟩, htext⟩
  · cases h

/-- A numeral is read or declined. -/
theorem numeral_cases (text : List Char) :
    Declines numeral text ∨ ∃ found, numeral text = .ok found := by
  cases h : scanNumeral text with
  | none => exact .inl (.of_unexpected text (by rw [numeral, h]))
  | some found => exact .inr ⟨(found.1.value, found.2), by rw [numeral, h]⟩

/-- The characters of a number are digits, signs, a point and the mark of a power. -/
theorem IsNumberText.forall_mem {text : List Char} (h : IsNumberText text) {p : Char → Prop}
    (hdigit : ∀ c, isAsciiDigit c = true → p c) (hmark : ∀ c ∈ ['+', '-', '.', 'e', 'E'], p c) :
    ∀ c ∈ text, p c := by
  have hsigns : ∀ {negative sign}, SignText negative sign → ∀ c ∈ sign, p c := by
    intro negative sign hsign c hc
    cases hsign with
    | missing => cases hc
    | _ => exact hmark c (by simp [List.mem_singleton.mp hc])
  have hdigits : ∀ {digits}, DigitText digits → ∀ c ∈ digits, p c :=
    fun hdigits c hc => hdigit c (hdigits.all c hc)
  obtain ⟨⟨negative, whole, digits, exponent⟩, hspells⟩ := h
  cases hspells with
  | parts hsign hwhole hfraction hpower =>
    intro c hc
    simp only [List.mem_append] at hc
    rcases hc with ((hc | hc) | hc) | hc
    · exact hsigns hsign c hc
    · exact hdigits hwhole c hc
    · cases hfraction with
      | missing => cases hc
      | point hpoint =>
        rcases List.mem_cons.mp hc with rfl | hc
        · exact hmark '.' (by simp)
        · exact hdigits hpoint c hc
    · cases hpower with
      | missing => cases hc
      | mark hletter hplus hpower =>
        simp only [List.cons_append, List.mem_cons, List.mem_append] at hc
        rcases hc with rfl | hc | hc
        · exact hmark c (by rcases hletter with rfl | rfl <;> simp)
        · exact hsigns hplus c hc
        · exact hdigits hpower c hc

/-- The characters of a range are those of its numbers, points and slashes. -/
theorem IsRangeText.forall_mem {text : List Char} (h : IsRangeText text) {p : Char → Prop}
    (hdigit : ∀ c, isAsciiDigit c = true → p c) (hmark : ∀ c ∈ ['+', '-', '.', 'e', 'E'], p c)
    (hslash : p '/') : ∀ c ∈ text, p c := by
  have hpoint : p '.' := hmark '.' (by simp)
  intro c hc
  cases h with
  | span hstart hstop =>
    simp only [List.mem_append, List.mem_cons] at hc
    rcases hc with hc | rfl | rfl | hc
    · exact hstart.forall_mem hdigit hmark c hc
    · exact hpoint
    · exact hpoint
    · exact hstop.forall_mem hdigit hmark c hc
  | step hstart hstop hstep =>
    simp only [List.append_assoc, List.cons_append, List.mem_append, List.mem_cons] at hc
    rcases hc with hc | rfl | rfl | hc | rfl | rfl | hc
    · exact hstart.forall_mem hdigit hmark c hc
    · exact hpoint
    · exact hpoint
    · exact hstop.forall_mem hdigit hmark c hc
    · exact hslash
    · exact hslash
    · exact hstep.forall_mem hdigit hmark c hc

/-- The marks in a number may stand in a symbol. -/
theorem isSymbolChar_mark : ∀ c ∈ ['+', '-', '.', 'e', 'E'], isSymbolChar c = true :=
  List.all_eq_true.mp (by decide +kernel)

/-- The characters of a number may stand in a symbol. -/
theorem IsNumberText.isSymbolChar {text : List Char} (h : IsNumberText text) :
    ∀ c ∈ text, isSymbolChar c = true :=
  h.forall_mem (fun _ => isSymbolChar_of_isAsciiDigit) isSymbolChar_mark

/-- The characters of a range may stand in a symbol. -/
theorem IsRangeText.isSymbolChar {text : List Char} (h : IsRangeText text) :
    ∀ c ∈ text, isSymbolChar c = true :=
  h.forall_mem (fun _ => isSymbolChar_of_isAsciiDigit) isSymbolChar_mark (by decide +kernel)

/-- The first character of a number is a digit or a sign. -/
theorem IsNumberText.first {c : Char} {tail : List Char} (h : IsNumberText (c :: tail)) :
    isAsciiDigit c = true ∨ c = '+' ∨ c = '-' := by
  obtain ⟨⟨negative, whole, digits, exponent⟩, hspells⟩ := h
  generalize htext : c :: tail = text at hspells
  cases hspells with
  | parts hsign hwhole hfraction hpower =>
    cases hsign with
    | minus => exact .inr (.inr (List.cons.inj htext).1)
    | plus => exact .inr (.inl (List.cons.inj htext).1)
    | missing =>
      cases whole with
      | nil => exact absurd rfl hwhole.nonempty
      | cons digit more =>
        rw [(List.cons.inj htext).1]
        exact .inl (hwhole.all digit List.mem_cons_self)

/-- The text of a number is not empty. -/
theorem IsNumberText.ne_nil {text : List Char} (h : IsNumberText text) : text ≠ [] := by
  obtain ⟨found, hspells⟩ := h
  cases hspells with
  | parts hsign hwhole hfraction hpower => simp [hwhole.nonempty]

/-- The demand that a token ends is met or declined. -/
theorem tokenEnd_cases (rest : List Char) :
    tokenEnd rest = .ok () ∨ ∃ place, tokenEnd rest = unexpected place := by
  cases rest with
  | nil => exact .inl rfl
  | cons c tail =>
    rw [tokenEnd]
    split
    · exact .inl rfl
    · exact .inr ⟨_, rfl⟩

/-- The given characters are read or declined. -/
theorem exactly_cases (expected text : List Char) :
    (∃ rest, exactly expected text = .ok ((), rest) ∧ text = expected ++ rest) ∨
      exactly expected text = unexpected text := by
  rw [exactly]
  split
  · next hexpected =>
    obtain ⟨rest, rfl⟩ := List.isPrefixOf_iff_prefix.mp hexpected
    exact .inl ⟨rest, by rw [List.drop_left], rfl⟩
  · exact .inr rfl

/-- A step is read with its slashes, or nothing is. -/
theorem rangeStep_cases (text : List Char) :
    rangeStep text = (none, text) ∨ ∃ step spelling rest, rangeStep text = (some step, rest) ∧
      IsNumberText spelling ∧ text = '/' :: '/' :: spelling ++ rest := by
  unfold rangeStep
  split
  · next tail =>
    split
    · next step left hscan =>
      obtain ⟨spelling, hspells, rfl⟩ := scanNumeral_sound hscan
      exact .inr ⟨_, spelling, left, rfl, ⟨step, hspells⟩, rfl⟩
    · exact .inl rfl
  · exact .inl rfl

/-- The two points of a range end its first number. -/
theorem endsNumeral_points (tail : List Char) : EndsNumeral ('.' :: '.' :: tail) where
  first c more h := by
    obtain ⟨rfl, -⟩ := List.cons.inj h
    decide
  point c more h := by
    obtain ⟨rfl, -⟩ := List.cons.inj (List.cons.inj h).2
    rfl

/-- No step is read where the token ends. -/
theorem rangeStep_of_endsToken {rest : List Char} (hrest : EndsToken rest) :
    rangeStep rest = (none, rest) := by
  rcases rangeStep_cases rest with hstep | ⟨step, spelling, left, -, -, hslash⟩
  · exact hstep
  · exact absurd rfl (hrest.ne hslash (by decide +kernel))

/-- What is read from the start of a name that ends its token is a part of the name. -/
theorem append_of_symbol {spelling left name rest : List Char}
    (hspelling : ∀ c ∈ spelling, isSymbolChar c = true)
    (hrest : ∀ c tail, rest = c :: tail → isSymbolChar c = false)
    (htext : name ++ rest = spelling ++ left) :
    ∃ more, name = spelling ++ more ∧ left = more ++ rest := by
  rcases List.append_eq_append_iff.mp htext with ⟨beyond, hspelled, hleft⟩ | ⟨more, hname, hleft⟩
  · cases beyond with
    | nil => exact ⟨[], by simpa using hspelled.symm, by simpa using hleft.symm⟩
    | cons c tail =>
      have hsymbol := hspelling c (by rw [hspelled]; simp)
      rw [hrest c (tail ++ left) hleft] at hsymbol
      cases hsymbol
  · exact ⟨more, hname, hleft⟩

/-! ### Tokens of one kind -/

variable [Regex.Engine]

/-- A scanner reads texts of one kind, up to the end of the token, and declines all others. -/
def Recognizes (scanner : Scanner Value) (kind : List Char → Prop) : Prop :=
  ∀ text, Declines scanner text ∨ ∃ value spelling rest, scanner text = .ok (value, rest) ∧
    kind spelling ∧ text = spelling ++ rest ∧ tokenEnd rest = .ok ()

/-- The scanner of numbers reads the texts of numbers. -/
theorem number_recognizes : Recognizes number IsNumberText := by
  intro text
  rcases numeral_cases text with ⟨stop, hstop, hopen⟩ | ⟨⟨x, rest⟩, hfound⟩
  · exact .inl ⟨stop, by rw [number, hstop]; rfl, hopen⟩
  · obtain ⟨spelling, hspelling, htext⟩ := numeral_sound hfound
    rcases tokenEnd_cases rest with hend | ⟨place, hend⟩
    · refine .inr ⟨.num x, spelling, rest, ?_, hspelling, htext, hend⟩
      simp only [number, hfound, bind, Except.bind, hend]
      rfl
    · refine .inl (.of_unexpected place ?_)
      simp only [number, hfound, bind, Except.bind, hend]
      rfl

/-- The scanner of ranges reads the texts of ranges. -/
theorem range_recognizes : Recognizes range IsRangeText := by
  intro text
  rcases numeral_cases text with ⟨stop, hstop, hopen⟩ | ⟨⟨start, afterStart⟩, hstart⟩
  · exact .inl ⟨stop, by rw [range, hstop]; rfl, hopen⟩
  obtain ⟨startText, hstartText, rfl⟩ := numeral_sound hstart
  rcases exactly_cases ['.', '.'] afterStart with ⟨afterPoints, hpoints, rfl⟩ | hpoints
  swap
  · refine .inl (.of_unexpected afterStart ?_)
    simp only [range, hstart, bind, Except.bind, hpoints]
    rfl
  rcases numeral_cases afterPoints with ⟨stop, hstop, hopen⟩ | ⟨⟨stop, afterStop⟩, hstop⟩
  · refine .inl ⟨stop, ?_, hopen⟩
    simp only [range, hstart, bind, Except.bind, hpoints, hstop]
  obtain ⟨stopText, hstopText, rfl⟩ := numeral_sound hstop
  rcases rangeStep_cases afterStop with hstep | ⟨step, stepText, rest, hstep, hstepText, rfl⟩
  · rcases tokenEnd_cases afterStop with hend | ⟨place, hend⟩
    · refine .inr ⟨.range start stop none, _, afterStop, ?_, .span hstartText hstopText, ?_, hend⟩
      · simp only [range, hstart, bind, Except.bind, hpoints, hstop, hstep, hend]
        rfl
      · simp
    · refine .inl (.of_unexpected place ?_)
      simp only [range, hstart, bind, Except.bind, hpoints, hstop, hstep, hend]
      rfl
  · rcases tokenEnd_cases rest with hend | ⟨place, hend⟩
    · refine .inr ⟨.range start stop (some step), _, rest, ?_,
        .step hstartText hstopText hstepText, ?_, hend⟩
      · simp only [range, hstart, bind, Except.bind, hpoints, hstop, hstep, hend]
        rfl
      · simp
    · refine .inl (.of_unexpected place ?_)
      simp only [range, hstart, bind, Except.bind, hpoints, hstop, hstep, hend]
      rfl

/-- A scanner declines a name that is not a text of its kind. -/
theorem Recognizes.declines {scanner : Scanner Value} {kind : List Char → Prop}
    (h : Recognizes scanner kind) (hkind : ∀ text, kind text → ∀ c ∈ text, isSymbolChar c = true)
    {name rest : List Char} (hname : ∀ c ∈ name, isSymbolChar c = true) (hnot : ¬ kind name)
    (hrest : ∀ c tail, rest = c :: tail → isSymbolChar c = false) :
    Declines scanner (name ++ rest) := by
  rcases h (name ++ rest) with hdeclines | ⟨value, spelling, left, -, hspelling, htext, hend⟩
  · exact hdeclines
  · obtain ⟨more, hmore, hleft⟩ := append_of_symbol (hkind spelling hspelling) hrest htext
    cases more with
    | nil =>
      rw [List.append_nil] at hmore
      exact absurd (hmore ▸ hspelling) hnot
    | cons c tail =>
      have hdelimiter := tokenEnd_sound hend c (tail ++ rest) hleft
      have hsymbol := hname c (by rw [hmore]; simp)
      rw [isSymbolChar_of_isDelimiter hdelimiter] at hsymbol
      cases hsymbol

/-! ### Numbers and ranges read back -/

/-- The first character of a number begins neither a string nor a pointer nor a regular
expression. -/
theorem IsNumberText.token {text : List Char} (h : IsNumberText text) (rest : List Char) :
    token (text ++ rest) = either range (either number symbol) (text ++ rest) := by
  cases text with
  | nil => exact absurd rfl h.ne_nil
  | cons c tail =>
    have hne : c ≠ '"' ∧ c ≠ '/' := by
      rcases h.first with hdigit | rfl | rfl
      · constructor <;> rintro rfl <;> exact absurd hdigit (by decide)
      · decide
      · decide
    exact token_of_first hne.1 hne.2

/-- A displayed number is read as the same number. -/
theorem token_number {x : Float} (hx : x.isFinite = true) {rest : List Char}
    (hrest : EndsToken rest) :
    ∃ y, token (surfaceText x ++ rest) = .ok (.num y, rest) ∧ Same y x := by
  obtain ⟨found, hspells, hsame⟩ := spells_surfaceText hx
  have hnumeral := numeral_append hspells hrest.endsNumeral
  have hrange : Declines range (surfaceText x ++ rest) := by
    rcases exactly_cases ['.', '.'] rest with ⟨left, -, hpoints⟩ | hpoints
    · exact absurd rfl (hrest.ne hpoints (by decide +kernel))
    · refine .of_unexpected rest ?_
      simp only [range, hnumeral, bind, Except.bind, hpoints]
      rfl
  refine ⟨found.value, ?_, hsame⟩
  rw [IsNumberText.token ⟨found, hspells⟩, either_of_declines hrange]
  apply either_of_ok
  simp only [number, hnumeral, bind, Except.bind, hrest.tokenEnd]
  rfl

/-- A range is read number by number. -/
theorem range_span {start stop : Numeral} {startText stopText rest : List Char}
    {step : Option Float} {left : List Char} (hstart : start.Spells startText)
    (hstop : stop.Spells stopText) (hnumber : EndsNumeral rest)
    (hstep : rangeStep rest = (step, left)) (hleft : tokenEnd left = .ok ()) :
    range (startText ++ '.' :: '.' :: (stopText ++ rest)) =
      .ok (.range start.value stop.value step, left) := by
  have hfirst := numeral_append hstart (endsNumeral_points (stopText ++ rest))
  have hsecond := numeral_append hstop hnumber
  have hpoints :
      exactly ['.', '.'] ('.' :: '.' :: (stopText ++ rest)) = .ok ((), stopText ++ rest) := rfl
  simp only [range, hfirst, bind, Except.bind, hpoints, hsecond, hstep, hleft]
  rfl

/-- A range is read as a token. -/
theorem token_span {start stop : Numeral} {startText stopText rest : List Char}
    {step : Option Float} {left : List Char} (hstart : start.Spells startText)
    (hstop : stop.Spells stopText) (hnumber : EndsNumeral rest)
    (hstep : rangeStep rest = (step, left)) (hleft : EndsToken left) :
    token (startText ++ '.' :: '.' :: (stopText ++ rest)) =
      .ok (.range start.value stop.value step, left) := by
  rw [IsNumberText.token ⟨start, hstart⟩]
  exact either_of_ok (range_span hstart hstop hnumber hstep hleft.tokenEnd)

/-- A displayed range is read as one with the same bounds and the same step. -/
theorem token_range {start stop : Float} {step : Option Float} (hstart : start.isFinite = true)
    (hstop : stop.isFinite = true) (hstep : ∀ x ∈ step, x.isFinite = true) {rest : List Char}
    (hrest : EndsToken rest) :
    ∃ start' stop' step', token (Value.rangeText start stop step ++ rest) =
      .ok (.range start' stop' step', rest) ∧ Same start' start ∧ Same stop' stop ∧
        Option.Rel Same step' step := by
  obtain ⟨first, hfirst, hfirstSame⟩ := spells_surfaceText hstart
  obtain ⟨second, hsecond, hsecondSame⟩ := spells_surfaceText hstop
  cases step with
  | none =>
    refine ⟨first.value, second.value, none, ?_, hfirstSame, hsecondSame, .none⟩
    have hread := token_span hfirst hsecond hrest.endsNumeral (rangeStep_of_endsToken hrest) hrest
    simpa [Value.rangeText] using hread
  | some step =>
    obtain ⟨third, hthird, hthirdSame⟩ := spells_surfaceText (hstep step rfl)
    have hslashes : rangeStep ('/' :: '/' :: (surfaceText step ++ rest)) =
        (some third.value, rest) := by
      rw [rangeStep, scanNumeral_append hthird hrest.endsNumeral]
    have hslash : EndsNumeral ('/' :: '/' :: (surfaceText step ++ rest)) :=
      .cons (by decide) (by decide) _
    refine ⟨first.value, second.value, some third.value, ?_, hfirstSame, hsecondSame,
      .some hthirdSame⟩
    have hread := token_span hfirst hsecond hslash hslashes hrest
    simpa [Value.rangeText] using hread

/-! ### Symbols -/

/-- A name that is read as a word: it may be one of the three literal words. -/
structure IsWord (name : List Char) : Prop where
  /-- It is not empty. -/
  nonempty : name ≠ []
  /-- It is made of symbol characters. -/
  all : ∀ c ∈ name, isSymbolChar c = true
  /-- It does not start with a digit. -/
  digit : ∀ c tail, name = c :: tail → isAsciiDigit c = false
  /-- It is not the text of a number. -/
  number : ¬ IsNumberText name
  /-- It is not the text of a range. -/
  range : ¬ IsRangeText name
  /-- It starts with a slash only when it is one slash or two. -/
  slash : ∀ tail, name = '/' :: tail → name = ['/'] ∨ name = ['/', '/']

/-- The name of a symbol that can be written. -/
structure IsSymbolName (name : List Char) : Prop extends IsWord name where
  /-- It is none of the three literal words. -/
  literal : name ≠ ['n', 'i', 'l'] ∧ name ≠ ['t', 'r', 'u', 'e'] ∧
    name ≠ ['f', 'a', 'l', 's', 'e']

/-- One slash or two are neither a pointer nor a regular expression. -/
theorem slashes_decline {rest : List Char} (hrest : EndsToken rest) {name : List Char}
    (hname : name = ['/'] ∨ name = ['/', '/']) :
    Declines pointer (name ++ rest) ∧ Declines regex (name ++ rest) := by
  rcases hname with rfl | rfl
  · constructor
    · refine .of_unexpected ('/' :: rest) ?_
      rw [List.singleton_append, pointer]
      intro path h
      exact hrest.ne (List.cons.inj h).2 (by decide +kernel) rfl
    · refine .of_unexpected ('/' :: rest) ?_
      rw [List.singleton_append, regex,
        if_neg (by rw [hrest.startsRegex]; exact Bool.false_ne_true)]
  · constructor
    · have hspan : rest.span (!isDelimiter ·) = ([], rest) :=
        @span_append (!isDelimiter ·) [] rest (by simp) fun c tail h => by
          rw [hrest.isDelimiter h]
          rfl
      refine .of_unexpected rest ?_
      change pointer ('/' :: '/' :: rest) = _
      rw [pointer, hspan]
    · exact .of_unexpected ('/' :: '/' :: rest) rfl

/-- A word is read as a whole. -/
theorem token_word {name rest : List Char} (hname : IsWord name) (hrest : EndsToken rest) :
    token (name ++ rest) = .ok (wordValue name, rest) := by
  have hends : ∀ c tail, rest = c :: tail → isSymbolChar c = false :=
    fun _ _ => hrest.isSymbolChar
  have hrange := range_recognizes.declines (fun _ h => h.isSymbolChar) hname.all hname.range hends
  have hnumber := number_recognizes.declines (fun _ h => h.isSymbolChar) hname.all hname.number
    hends
  have hsymbol : symbol (name ++ rest) = .ok (wordValue name, rest) := by
    have hspan := span_append hname.all hends
    unfold symbol
    rw [hspan]
    cases name with
    | nil => exact absurd rfl hname.nonempty
    | cons c tail =>
      dsimp only
      rw [hname.digit c tail rfl, if_neg Bool.false_ne_true, hrest.tokenEnd]
      rfl
  have hreadings : token (name ++ rest) = either range (either number symbol) (name ++ rest) := by
    cases name with
    | nil => exact absurd rfl hname.nonempty
    | cons c tail =>
      have hquote : c ≠ '"' := by
        rintro rfl
        exact absurd (hname.all '"' List.mem_cons_self) (by decide +kernel)
      by_cases hslash : c = '/'
      · subst hslash
        have hstring : Declines string ('/' :: tail ++ rest) :=
          (stringText_declines (by decide)).mapResult _
        obtain ⟨hpointer, hregex⟩ := slashes_decline hrest (hname.slash tail rfl)
        rw [token, either_of_declines hstring, either_of_declines hpointer,
          either_of_declines hregex]
      · exact token_of_first hquote hslash
  rw [hreadings, either_of_declines hrange, either_of_declines hnumber, hsymbol]

omit [Regex.Engine] in
/-- A name whose first character begins no number is neither a number nor a range. -/
theorem IsWord.of_first {c : Char} {tail : List Char}
    (hall : ∀ d ∈ c :: tail, isSymbolChar d = true)
    (hc : isAsciiDigit c = false ∧ c ≠ '+' ∧ c ≠ '-' ∧ c ≠ '/') : IsWord (c :: tail) := by
  have hfirst : ∀ more, ¬ IsNumberText (c :: more) := by
    intro more h
    rcases h.first with hdigit | hplus | hminus
    · rw [hc.1] at hdigit
      cases hdigit
    · exact hc.2.1 hplus
    · exact hc.2.2.1 hminus
  have hbegins : ∀ start more, IsNumberText start → c :: tail ≠ start ++ more := by
    intro start more hstart h
    cases start with
    | nil => exact hstart.ne_nil rfl
    | cons d rest =>
      obtain ⟨rfl, -⟩ := List.cons.inj h
      exact hfirst rest hstart
  refine ⟨List.cons_ne_nil c tail, hall, ?_, hfirst tail, ?_, ?_⟩
  · intro d more h
    obtain ⟨rfl, -⟩ := List.cons.inj h
    exact hc.1
  · intro h
    generalize htext : c :: tail = text at h
    cases h with
    | span hstart hstop => exact hbegins _ _ hstart htext
    | step hstart hstop hstep => exact hbegins _ _ hstart (htext.trans (List.append_assoc ..))
  · intro more h
    exact absurd (List.cons.inj h).1 hc.2.2.2

/-! ### Strings -/

omit [Regex.Engine] in
/-- The written form of a character is read as this character. -/
theorem stringBody_surfaceChar (c : Char) (rest : List Char) :
    stringBody (Quoted.surfaceChar c ++ rest) = mapResult (c :: ·) (stringBody rest) := by
  by_cases hquote : c = '"'
  · rw [hquote]
    rfl
  by_cases hbackslash : c = '\\'
  · rw [hbackslash]
    rfl
  by_cases hline : c = '\n'
  · rw [hline]
    rfl
  by_cases htab : c = '\t'
  · rw [htab]
    rfl
  by_cases hreturn : c = '\r'
  · rw [hreturn]
    rfl
  rw [Quoted.surfaceChar, if_neg hquote, if_neg hbackslash, if_neg hline, if_neg htab,
    if_neg hreturn, List.singleton_append, stringBody, if_neg hquote]
  · exact fun h => absurd h hbackslash
  · exact fun letter more h => absurd h hbackslash

omit [Regex.Engine] in
/-- A written text is read up to its closing quote. -/
theorem stringBody_surface (text rest : List Char) :
    stringBody (text.flatMap Quoted.surfaceChar ++ '"' :: rest) = .ok (text, rest) := by
  induction text with
  | nil => rfl
  | cons c more ih =>
    rw [List.flatMap_cons, List.append_assoc, stringBody_surfaceChar, ih]
    rfl

omit [Regex.Engine] in
/-- The text of a written string is read. -/
theorem stringText_surface (text : String) (rest : List Char) :
    stringText (Quoted.surface text.toList ++ rest) = .ok (text, rest) := by
  have htext : Quoted.surface text.toList ++ rest =
      '"' :: (text.toList.flatMap Quoted.surfaceChar ++ '"' :: rest) := by
    simp [Quoted.surface]
  rw [htext, stringText, stringBody_surface, mapResult, String.ofList_toList]

/-- A displayed string is read. -/
theorem token_string (text : String) (rest : List Char) :
    token (Quoted.surface text.toList ++ rest) = .ok (.str text, rest) := by
  apply either_of_ok
  rw [string, stringText_surface, mapResult]

/-! ### Pointers -/

/-- The path of a pointer that can be written: a slash and characters that end no token. -/
def IsPointerPath (path : List Char) : Prop :=
  ∃ name, path = '/' :: name ∧ name ≠ [] ∧ ∀ c ∈ name, isDelimiter c = false

/-- A displayed pointer is read. -/
theorem token_pointer {path : String} (hpath : IsPointerPath path.toList) {rest : List Char}
    (hrest : EndsToken rest) :
    token ('/' :: path.toList ++ rest) = .ok (.pointer path, rest) := by
  obtain ⟨name, hname, hnonempty, hall⟩ := hpath
  have hspan : (name ++ rest).span (!isDelimiter ·) = (name, rest) := by
    apply span_append
    · intro c hc
      rw [hall c hc]
      rfl
    · intro c tail h
      rw [hrest.isDelimiter h]
      rfl
  have hstring : Declines string ('/' :: path.toList ++ rest) :=
    (stringText_declines (by decide)).mapResult _
  rw [token, either_of_declines hstring]
  apply either_of_ok
  rw [hname, List.cons_append, List.cons_append, pointer, hspan]
  cases name with
  | nil => exact absurd rfl hnonempty
  | cons c more =>
    dsimp only
    rw [← hname, String.ofList_toList]

/-! ### Regular expressions -/

/-- Whether every slash in a text is escaped by a backslash. The text may follow a backslash
itself. -/
def slashesEscaped : (escaped : Bool) → List Char → Bool
  | _, [] => true
  | true, _ :: rest => slashesEscaped false rest
  | false, c :: rest => c != '/' && slashesEscaped (c = '\\') rest

/-- Whether the last backslash of a text escapes a character of it. -/
def escapesClosed : (escaped : Bool) → List Char → Bool
  | escaped, [] => !escaped
  | true, _ :: rest => escapesClosed false rest
  | false, c :: rest => escapesClosed (c = '\\') rest

/-- A regular expression whose source and flags can stand between and after slashes. -/
structure IsRegexLiteral (literal : Regex) : Prop where
  /-- Its source begins with a character that a regular expression may start with. -/
  first : literal.source.toList.head?.any startsRegex = true
  /-- Every slash in its source is escaped. -/
  slashes : slashesEscaped false literal.source.toList = true
  /-- Its flags are letters. -/
  letters : ∀ c ∈ literal.flags.toList, isAsciiLetter c = true

omit [Regex.Engine] in
/-- A source is split off at the slash that closes it. -/
theorem splitRegex_append {escaped : Bool} {source : List Char}
    (hslashes : slashesEscaped escaped source = true)
    (hclosed : escapesClosed escaped source = true) (rest : List Char) :
    splitRegex escaped (source ++ '/' :: rest) = some (source, rest) := by
  induction source generalizing escaped with
  | nil =>
    cases escaped with
    | true => cases hclosed
    | false => rfl
  | cons c more ih =>
    cases escaped with
    | true =>
      rw [List.cons_append, splitRegex, ih hslashes hclosed]
      rfl
    | false =>
      rw [slashesEscaped, Bool.and_eq_true, bne_iff_ne] at hslashes
      rw [List.cons_append, splitRegex, if_neg hslashes.1, ih hslashes.2 hclosed]
      rfl

/-- A literal is what its source and flags compile to. -/
theorem ofSource_self (literal : Regex) :
    Regex.ofSource literal.source literal.flags = .ok literal := by
  obtain ⟨source, flags, compiled, hcompiles⟩ := literal
  unfold Regex.ofSource
  split
  · next found hfound =>
    cases hcompiles.symm.trans hfound
    rfl
  · next refusal hrefused => cases hcompiles.symm.trans hrefused

/-- A displayed regular expression is read. -/
theorem token_regex {literal : Regex} (hliteral : IsRegexLiteral literal)
    (hclosed : escapesClosed false literal.source.toList = true) {rest : List Char}
    (hrest : EndsToken rest) :
    token (Value.regexText literal ++ rest) = .ok (.regex literal, rest) := by
  have htext : Value.regexText literal ++ rest =
      '/' :: (literal.source.toList ++ '/' :: (literal.flags.toList ++ rest)) := by
    simp [Value.regexText]
  have hstring : Declines string (Value.regexText literal ++ rest) :=
    htext ▸ (stringText_declines (by decide)).mapResult _
  have hfirst : (literal.source.toList ++ '/' :: (literal.flags.toList ++ rest)).head?.any
      startsRegex = true := by
    have hsource := hliteral.first
    cases hsplit : literal.source.toList with
    | nil =>
      rw [hsplit] at hsource
      cases hsource
    | cons c more =>
      rw [hsplit] at hsource
      exact hsource
  have hpointer : Declines pointer (Value.regexText literal ++ rest) := by
    refine .of_unexpected (Value.regexText literal ++ rest) ?_
    rw [htext, pointer]
    intro path h
    rw [(List.cons.inj h).2] at hfirst
    cases hfirst
  have hspan : (literal.flags.toList ++ rest).span isAsciiLetter = (literal.flags.toList, rest) :=
    span_append hliteral.letters fun c tail h => hrest.isAsciiLetter h
  rw [token, either_of_declines hstring, either_of_declines hpointer]
  apply either_of_ok
  rw [htext, regex, if_pos hfirst, splitRegex_append hliteral.slashes hclosed]
  dsimp only
  rw [hspan, hrest.tokenEnd]
  simp only [commit, bind, Except.bind, String.ofList_toList, ofSource_self]
  rfl

end ShapeLisp.Reader
