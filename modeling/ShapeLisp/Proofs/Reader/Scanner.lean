import ShapeLisp.Proofs.Number.Grammar
import ShapeLisp.Reader.Expression

/-!
# What a scanner answers, and what ends a token

A scanner declines a text when it stops without being committed, and then the next reading is
tried. A scanner of nested texts answers by the room it is given: with room for all levels it reads
the text, and otherwise it says that the text is nested too deeply.

A token ends at the end of the text, before white space or before a closing parenthesis. None of
these characters may stand in a symbol or a number, so they never prolong a token.
-/

namespace ShapeLisp.Reader

open ShapeLisp.Text ShapeLisp.Number

/-! ### Readings -/

/-- The scanner stops at the text without being committed. -/
def Declines {α : Type} (scanner : Scanner α) (text : List Char) : Prop :=
  ∃ stop, scanner text = .error stop ∧ stop.committed = false

section Readings

variable {α β : Type} {first second : Scanner α} {text : List Char}

/-- A stop that is open to other readings is one. -/
theorem Declines.of_unexpected (place : List Char) (h : first text = unexpected place) :
    Declines first text :=
  ⟨_, h, rfl⟩

/-- The second reading is tried where the first declines. -/
theorem either_of_declines (h : Declines first text) :
    either first second text = second text := by
  obtain ⟨stop, hstop, hopen⟩ := h
  rw [either, hstop]
  dsimp only
  rw [hopen, if_neg Bool.false_ne_true]

/-- The first reading stands where it succeeds. -/
theorem either_of_ok {result : α × List Char} (h : first text = .ok result) :
    either first second text = .ok result := by
  rw [either, h]

/-- The first reading stands where it is committed. -/
theorem either_of_failed {trouble : Trouble} {place : List Char}
    (h : first text = failed trouble place) : either first second text = failed trouble place := by
  rw [either, h]
  rfl

/-- A result that is changed declines as before. -/
theorem Declines.mapResult (h : Declines first text) (f : α → β) :
    Declines (fun text => mapResult f (first text)) text := by
  obtain ⟨stop, hstop, hopen⟩ := h
  refine ⟨stop, ?_, hopen⟩
  dsimp only
  rw [hstop, Reader.mapResult]

end Readings

/-! ### Room -/

/-- The answer about a text that needs so many levels: with room for them a good result and the
rest of the text, and without it that the text is nested too deeply. -/
structure Reads {α : Type} (levels room : Nat) (good : α → Prop) (rest : List Char)
    (outcome : Except Stop (α × List Char)) : Prop where
  /-- There is a good result where there is room. -/
  fits : levels ≤ room → ∃ found, outcome = .ok (found, rest) ∧ good found
  /-- The text is refused where there is none. -/
  tooDeep : room < levels → ∃ place, outcome = failed .tooDeep place

namespace Reads

variable {α β : Type} {levels more room : Nat} {good : α → Prop} {goal : β → Prop}
  {left rest : List Char} {outcome : Except Stop (α × List Char)}
  {result : Except Stop (β × List Char)}

/-- What needs no level is read in any room. -/
theorem of_ok {found : α} (h : outcome = .ok (found, rest)) (room : Nat) :
    Reads 0 room (· = found) rest outcome where
  fits _ := ⟨found, h, rfl⟩
  tooDeep hroom := absurd hroom (Nat.not_lt_zero room)

/-- Where one part is read after the other, the more nested one decides. -/
theorem sequence (h : Reads levels room good left outcome)
    (hnext : ∀ found, outcome = .ok (found, left) → good found → Reads more room goal rest result)
    (hstop : ∀ place, outcome = failed .tooDeep place → ∃ place, result = failed .tooDeep place) :
    Reads (max levels more) room goal rest result := by
  rcases Nat.lt_or_ge room levels with hroom | hroom
  · obtain ⟨place, hplace⟩ := h.tooDeep hroom
    exact ⟨fun hle => absurd hle (by omega), fun _ => hstop place hplace⟩
  · obtain ⟨found, hfound, hgood⟩ := h.fits hroom
    have hreads := hnext found hfound hgood
    exact ⟨fun hle => hreads.fits (by omega), fun hlt => hreads.tooDeep (by omega)⟩

/-- What is good may be good enough. -/
theorem imp {goal : α → Prop} (h : Reads levels room good rest outcome)
    (hgoal : ∀ found, good found → goal found) : Reads levels room goal rest outcome where
  fits hroom := by
    obtain ⟨found, hfound, hgood⟩ := h.fits hroom
    exact ⟨found, hfound, hgoal found hgood⟩
  tooDeep := h.tooDeep

/-- A result may be changed. -/
theorem mapResult {f : α → β} (h : Reads levels room good rest outcome)
    (hgoal : ∀ found, good found → goal (f found)) :
    Reads levels room goal rest (Reader.mapResult f outcome) where
  fits hroom := by
    obtain ⟨found, hfound, hgood⟩ := h.fits hroom
    exact ⟨f found, by rw [hfound, Reader.mapResult], hgoal found hgood⟩
  tooDeep hroom := by
    obtain ⟨place, hplace⟩ := h.tooDeep hroom
    exact ⟨place, by rw [hplace]; rfl⟩

/-- Being committed changes neither answer. -/
theorem commit (h : Reads levels room good rest outcome) :
    Reads levels room good rest (Reader.commit outcome) where
  fits hroom := by
    obtain ⟨found, hfound, hgood⟩ := h.fits hroom
    exact ⟨found, by rw [hfound, Reader.commit], hgood⟩
  tooDeep hroom := by
    obtain ⟨place, hplace⟩ := h.tooDeep hroom
    exact ⟨place, by rw [hplace]; rfl⟩

/-- No other reading is tried after either answer. -/
theorem either {first second : Scanner α} {text : List Char}
    (h : Reads levels room good rest (first text)) :
    Reads levels room good rest (Reader.either first second text) where
  fits hroom := by
    obtain ⟨found, hfound, hgood⟩ := h.fits hroom
    exact ⟨found, either_of_ok hfound, hgood⟩
  tooDeep hroom := by
    obtain ⟨place, hplace⟩ := h.tooDeep hroom
    exact ⟨place, either_of_failed hplace⟩

/-- One level more is needed where one is taken. -/
theorem succ (h : Reads levels room good rest outcome) :
    Reads (levels + 1) (room + 1) good rest outcome where
  fits hroom := h.fits (by omega)
  tooDeep hroom := h.tooDeep (by omega)

/-- Without any room every level is refused. -/
theorem zero {place : List Char} (h : outcome = failed .tooDeep place) (levels : Nat) :
    Reads (levels + 1) 0 good rest outcome where
  fits hroom := absurd hroom (Nat.not_succ_le_zero levels)
  tooDeep _ := ⟨place, h⟩

end Reads

/-! ### Characters -/

/-- The characters of white space, one by one. -/
def whitespaceChars : List Char :=
  whitespacePoints.flatMap fun range =>
    (List.range' range.1 (range.2 + 1 - range.1)).map Char.ofNat

/-- White space is one of these characters. -/
theorem mem_whitespaceChars {c : Char} (h : isWhitespace c = true) : c ∈ whitespaceChars := by
  rw [isWhitespace, CodePoints.has, CodePoints.contains, List.any_eq_true] at h
  obtain ⟨⟨low, high⟩, hrange, hpoint⟩ := h
  simp only [Bool.and_eq_true, decide_eq_true_eq] at hpoint
  rw [whitespaceChars, List.mem_flatMap]
  refine ⟨(low, high), hrange, List.mem_map.mpr ⟨c.toNat, ?_, Char.ofNat_toNat c⟩⟩
  rw [List.mem_range'_1]
  omega

/-- White space may not stand in a symbol. -/
theorem isSymbolChar_of_isWhitespace {c : Char} (h : isWhitespace c = true) :
    isSymbolChar c = false := by
  have hall : whitespaceChars.all (fun c => !isSymbolChar c) = true := by decide +kernel
  have hc := List.all_eq_true.mp hall c (mem_whitespaceChars h)
  simpa using hc

/-- What ends a token may not stand in a symbol. -/
theorem isSymbolChar_of_isDelimiter {c : Char} (h : isDelimiter c = true) :
    isSymbolChar c = false := by
  simp only [isDelimiter, Bool.or_eq_true, decide_eq_true_eq] at h
  obtain ((((h | rfl) | rfl) | rfl) | rfl) | rfl := h
  · exact isSymbolChar_of_isWhitespace h
  all_goals decide +kernel

/-- A digit may stand in a symbol. -/
theorem isSymbolChar_of_isAsciiDigit {c : Char} (h : isAsciiDigit c = true) :
    isSymbolChar c = true := by
  have hsmall : c.toNat < 128 := by
    rw [isAsciiDigit, Bool.and_eq_true, decide_eq_true_eq, decide_eq_true_eq] at h
    exact Nat.lt_of_le_of_lt (UInt32.le_iff_toNat_le.mp h.2) (by decide)
  rw [isSymbolChar, isAlphanumeric, isNumeric, if_pos hsmall, h, Bool.or_true, Bool.true_or]

/-- A letter may stand in a symbol. -/
theorem isSymbolChar_of_isAsciiLetter {c : Char} (h : isAsciiLetter c = true) :
    isSymbolChar c = true := by
  have hsmall : c.toNat < 128 := by
    simp only [isAsciiLetter, Bool.or_eq_true, Bool.and_eq_true, decide_eq_true_eq] at h
    rcases h with h | h
    · exact Nat.lt_of_le_of_lt (UInt32.le_iff_toNat_le.mp h.2) (by decide)
    · exact Nat.lt_of_le_of_lt (UInt32.le_iff_toNat_le.mp h.2) (by decide)
  rw [isSymbolChar, isAlphanumeric, isAlphabetic, if_pos hsmall, h, Bool.true_or, Bool.true_or]

/-- What may stand in a symbol differs from what may not. -/
theorem ne_of_isSymbolChar {c d : Char} (hc : isSymbolChar c = true)
    (hd : isSymbolChar d = false) : c ≠ d := by
  rintro rfl
  rw [hc] at hd
  cases hd

/-! ### The end of a token -/

/-- The text is empty, or begins with white space or a closing parenthesis. -/
def EndsToken (rest : List Char) : Prop :=
  ∀ c tail, rest = c :: tail → isWhitespace c = true ∨ c = ')'

namespace EndsToken

/-- The end of the text ends a token. -/
theorem nil : EndsToken [] := fun _ _ h => by cases h

/-- White space ends a token. -/
theorem whitespace {c : Char} (hc : isWhitespace c = true) (tail : List Char) :
    EndsToken (c :: tail) := by
  intro d more h
  obtain ⟨rfl, -⟩ := List.cons.inj h
  exact .inl hc

/-- A closing parenthesis ends a token. -/
theorem parenthesis (tail : List Char) : EndsToken (')' :: tail) := by
  intro d more h
  obtain ⟨rfl, -⟩ := List.cons.inj h
  exact .inr rfl

variable {c : Char} {rest tail : List Char}

/-- What ends a token is a delimiter. -/
theorem isDelimiter (h : EndsToken rest) (hrest : rest = c :: tail) :
    isDelimiter c = true := by
  rcases h c tail hrest with hspace | rfl
  · rw [Reader.isDelimiter, hspace, Bool.true_or, Bool.true_or, Bool.true_or, Bool.true_or,
      Bool.true_or]
  · decide +kernel

/-- What ends a token may not stand in a symbol. -/
theorem isSymbolChar (h : EndsToken rest) (hrest : rest = c :: tail) : isSymbolChar c = false :=
  isSymbolChar_of_isDelimiter (h.isDelimiter hrest)

/-- It is no character that may stand in a symbol. -/
theorem ne (h : EndsToken rest) (hrest : rest = c :: tail) {d : Char}
    (hd : Reader.isSymbolChar d = true) : c ≠ d :=
  (ne_of_isSymbolChar hd (h.isSymbolChar hrest)).symm

/-- It is no digit. -/
theorem isAsciiDigit (h : EndsToken rest) (hrest : rest = c :: tail) : isAsciiDigit c = false := by
  apply Bool.eq_false_iff.mpr
  intro hdigit
  exact h.ne hrest (isSymbolChar_of_isAsciiDigit hdigit) rfl

/-- It is no letter. -/
theorem isAsciiLetter (h : EndsToken rest) (hrest : rest = c :: tail) :
    isAsciiLetter c = false := by
  apply Bool.eq_false_iff.mpr
  intro hletter
  exact h.ne hrest (isSymbolChar_of_isAsciiLetter hletter) rfl

/-- A regular expression does not start with it. -/
theorem startsRegex (h : EndsToken rest) : rest.head?.any startsRegex = false := by
  cases rest with
  | nil => rfl
  | cons c tail =>
    rw [List.head?_cons, Option.any_some, Reader.startsRegex]
    rcases h c tail rfl with hspace | rfl
    · rw [hspace, Bool.not_true, Bool.false_and, Bool.false_and]
    · decide +kernel

/-- The demand that a token ends is met. -/
theorem tokenEnd (h : EndsToken rest) : tokenEnd rest = .ok () := by
  cases rest with
  | nil => rfl
  | cons c tail => rw [Reader.tokenEnd, if_pos (h.isDelimiter rfl)]

/-- A numeral is not prolonged. -/
theorem endsNumeral (h : EndsToken rest) : EndsNumeral rest where
  first c tail hrest :=
    ⟨h.isAsciiDigit hrest, h.ne hrest (by decide +kernel), h.ne hrest (by decide +kernel)⟩
  point c tail hrest := absurd rfl (h.ne hrest (by decide +kernel))

end EndsToken

/-- What meets the demand that a token ends. -/
theorem tokenEnd_sound {rest : List Char} (h : tokenEnd rest = .ok ()) :
    ∀ c tail, rest = c :: tail → isDelimiter c = true := by
  rintro c tail rfl
  rw [tokenEnd] at h
  split at h
  · next hdelimiter => exact hdelimiter
  · cases h

end ShapeLisp.Reader
