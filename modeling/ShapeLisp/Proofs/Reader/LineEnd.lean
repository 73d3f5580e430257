import ShapeLisp.Proofs.Reader.Produced

/-!
# Tokens before the end of a line

What can be read can be read in the same way when another line follows. The end of a line is white
space: it ends every token and may stand in no symbol, numeral or word. A scanner is tried in its
turn, though, so it is not enough that each reads what it has read. Each must also decline what it
has declined, or an earlier reading would take over where the text goes on.

This module has the rules for scanners that are made of others, and the tokens.
-/

namespace ShapeLisp.Reader

open ShapeLisp.Text ShapeLisp.Number

/-! ### Scanners before the end of a line -/

/-- What the scanner reads it reads in the same way when another line follows. -/
def KeepsReading {α : Type} (scanner : Scanner α) : Prop :=
  ∀ text found rest, scanner text = .ok (found, rest) → ∀ more,
    scanner (text ++ '\n' :: more) = .ok (found, rest ++ '\n' :: more)

/-- What the scanner declines it also declines when another line follows. -/
def KeepsDeclining {α : Type} (scanner : Scanner α) : Prop :=
  ∀ text, Declines scanner text → ∀ more, Declines scanner (text ++ '\n' :: more)

/-- The scanner decides in the same way when another line follows. -/
structure IgnoresLines {α : Type} (scanner : Scanner α) : Prop where
  /-- It reads what it has read. -/
  reads : KeepsReading scanner
  /-- It declines what it has declined. -/
  declines : KeepsDeclining scanner

section Combinators

variable {α β : Type} {first second : Scanner α}

/-- Two readings, of which the first is tried before the second. -/
theorem KeepsReading.either (hfirst : IgnoresLines first) (hsecond : KeepsReading second) :
    KeepsReading (Reader.either first second) := by
  intro text found rest h more
  rcases either_ok h with h | ⟨hdeclines, h⟩
  · exact either_of_ok (hfirst.reads text found rest h more)
  · rw [either_of_declines (hfirst.declines text hdeclines more)]
    exact hsecond text found rest h more

/-- A result may be changed. -/
theorem KeepsReading.mapResult (h : KeepsReading first) (f : α → β) :
    KeepsReading fun text => Reader.mapResult f (first text) := by
  intro text found rest hfound more
  obtain ⟨inner, hinner, rfl⟩ := mapResult_ok hfound
  dsimp only
  rw [h text inner rest hinner more, Reader.mapResult]

/-- What is declined is declined with a changed result. -/
theorem Declines.of_mapResult {f : α → β} {text : List Char}
    (h : Declines (fun text => Reader.mapResult f (first text)) text) : Declines first text := by
  obtain ⟨stop, hstop, hopen⟩ := h
  dsimp only at hstop
  cases hfirst : first text with
  | ok found =>
    rw [hfirst] at hstop
    cases hstop
  | error other =>
    rw [hfirst] at hstop
    exact ⟨other, hfirst, Except.error.inj hstop ▸ hopen⟩

/-- A result may be changed without changing what is declined. -/
theorem IgnoresLines.mapResult (h : IgnoresLines first) (f : α → β) :
    IgnoresLines fun text => Reader.mapResult f (first text) where
  reads := h.reads.mapResult f
  declines text hdeclines more := (h.declines text hdeclines.of_mapResult more).mapResult f

/-- A scanner after a scanner. -/
theorem KeepsReading.bind {next : α → Scanner β} (hfirst : KeepsReading first)
    (hnext : ∀ a, KeepsReading (next a)) :
    KeepsReading fun text => first text >>= fun found => next found.1 found.2 := by
  intro text found rest h more
  obtain ⟨⟨a, left⟩, ha, hlater⟩ := bind_ok h
  dsimp only
  rw [hfirst text a left ha more]
  exact hnext a left found rest hlater more

/-- A scanner that is committed. -/
theorem KeepsReading.commit (h : KeepsReading first) :
    KeepsReading fun text => Reader.commit (first text) := by
  intro text found rest hfound more
  dsimp only
  rw [h text found rest (commit_ok hfound) more, Reader.commit]

/-- A scanner after a scanner, both of which decide in the same way. -/
theorem IgnoresLines.bind {next : α → Scanner β} (hfirst : IgnoresLines first)
    (hnext : ∀ a, IgnoresLines (next a)) :
    IgnoresLines fun text => first text >>= fun found => next found.1 found.2 where
  reads := hfirst.reads.bind fun a => (hnext a).reads
  declines text h more := by
    obtain ⟨stop, hstop, hopen⟩ := h
    dsimp only at hstop
    cases ha : first text with
    | error other =>
      rw [ha] at hstop
      obtain rfl := Except.error.inj hstop
      obtain ⟨later, hlater, hstill⟩ := hfirst.declines text ⟨other, ha, hopen⟩ more
      refine ⟨later, ?_, hstill⟩
      dsimp only
      rw [hlater]
      rfl
    | ok found =>
      rw [ha] at hstop
      obtain ⟨later, hlater, hstill⟩ :=
        (hnext found.1).declines found.2 ⟨stop, hstop, hopen⟩ more
      refine ⟨later, ?_, hstill⟩
      dsimp only
      rw [hfirst.reads text found.1 found.2 ha more]
      exact hlater

/-- A scanner whose first character decides whether it declines. -/
theorem KeepsDeclining.of_first (hline : ∀ more, Declines first ('\n' :: more))
    (hfirst : ∀ c tail, Declines first (c :: tail) → ∀ more, Declines first (c :: more)) :
    KeepsDeclining first := by
  intro text h more
  cases text with
  | nil => exact hline more
  | cons c tail => exact hfirst c tail h _

end Combinators

/-! ### Runs of characters and numerals -/

/-- A run of characters ends at the end of a line. -/
theorem span_line {p : Char → Bool} (hp : p '\n' = false) (text more : List Char) :
    (text ++ '\n' :: more).span p = ((text.span p).1, (text.span p).2 ++ '\n' :: more) := by
  simp only [List.span_eq_takeWhile_dropWhile]
  induction text with
  | nil => simp [hp]
  | cons c rest ih =>
    obtain ⟨htake, hdrop⟩ := Prod.mk.inj ih
    cases hc : p c <;> simp [hc, htake, hdrop]

/-- Digits end at the end of a line. -/
theorem spanDigits_line (text more : List Char) :
    spanDigits (text ++ '\n' :: more) =
      ((spanDigits text).1, (spanDigits text).2 ++ '\n' :: more) :=
  span_line (by decide) text more

/-- A sign is read before the end of a line. -/
theorem scanSign_line (text more : List Char) :
    scanSign (text ++ '\n' :: more) = ((scanSign text).1, (scanSign text).2 ++ '\n' :: more) := by
  cases text with
  | nil => rfl
  | cons c rest =>
    by_cases hminus : c = '-'
    · subst hminus
      rfl
    · by_cases hplus : c = '+'
      · subst hplus
        rfl
      · have hnone : ∀ tail, scanSign (c :: tail) = (false, c :: tail) := by
          intro tail
          unfold scanSign
          split <;> simp_all
        rw [List.cons_append, hnone, hnone, List.cons_append]

/-- A fraction is read before the end of a line. -/
theorem scanFraction_line (text more : List Char) :
    scanFraction (text ++ '\n' :: more) =
      ((scanFraction text).1, (scanFraction text).2 ++ '\n' :: more) := by
  cases text with
  | nil => rfl
  | cons c rest =>
    by_cases hpoint : c = '.'
    · subst hpoint
      rw [List.cons_append, scanFraction, scanFraction, spanDigits_line]
      obtain ⟨digits, left⟩ := spanDigits rest
      cases digits <;> rfl
    · have hnone : ∀ tail, scanFraction (c :: tail) = ([], c :: tail) := by
        intro tail
        unfold scanFraction
        split <;> simp_all
      rw [List.cons_append, hnone, hnone, List.cons_append]

/-- The sign and digits of an exponent are read before the end of a line. -/
theorem scanPower_line (text more : List Char) :
    scanPower (text ++ '\n' :: more) =
      (scanPower text).map fun found => (found.1, found.2 ++ '\n' :: more) := by
  rw [scanPower, scanPower, scanSign_line]
  dsimp only
  rw [spanDigits_line]
  obtain ⟨digits, left⟩ := spanDigits (scanSign text).2
  cases digits <;> rfl

/-- An exponent is read before the end of a line. -/
theorem scanExponent_line (text more : List Char) :
    scanExponent (text ++ '\n' :: more) =
      ((scanExponent text).1, (scanExponent text).2 ++ '\n' :: more) := by
  cases text with
  | nil => rfl
  | cons c rest =>
    rw [List.cons_append, scanExponent, scanExponent, scanPower_line]
    split
    · cases scanPower rest <;> rfl
    · rfl

/-- A numeral is read before the end of a line. -/
theorem scanNumeral_line (text more : List Char) :
    scanNumeral (text ++ '\n' :: more) =
      (scanNumeral text).map fun found => (found.1, found.2 ++ '\n' :: more) := by
  rw [scanNumeral, scanNumeral, scanSign_line]
  dsimp only
  rw [spanDigits_line]
  obtain ⟨digits, left⟩ := spanDigits (scanSign text).2
  cases digits with
  | nil => rfl
  | cons digit others =>
    dsimp only
    rw [scanFraction_line, scanExponent_line]
    rfl

/-- A text that begins with two slashes did so before the end of a line. -/
theorem not_slashes_line {text : List Char} (h : ∀ tail, text ≠ '/' :: '/' :: tail)
    (more tail : List Char) : text ++ '\n' :: more ≠ '/' :: '/' :: tail := by
  intro htext
  match text with
  | [] => cases htext
  | [c] => simp at htext
  | c :: d :: rest =>
    simp only [List.cons_append, List.cons.injEq] at htext
    exact h rest (by rw [htext.1, htext.2.1])

/-- The step of a range is read before the end of a line. -/
theorem rangeStep_line (text more : List Char) :
    rangeStep (text ++ '\n' :: more) =
      ((rangeStep text).1, (rangeStep text).2 ++ '\n' :: more) := by
  have hnone : ∀ text : List Char, (∀ tail, text ≠ '/' :: '/' :: tail) →
      rangeStep text = (none, text) := by
    intro text h
    rw [rangeStep]
    exact fun tail => h tail
  by_cases hslashes : ∃ tail, text = '/' :: '/' :: tail
  · obtain ⟨tail, rfl⟩ := hslashes
    rw [List.cons_append, List.cons_append, rangeStep, rangeStep, scanNumeral_line]
    cases scanNumeral tail <;> rfl
  · have hno : ∀ tail, text ≠ '/' :: '/' :: tail := fun tail htext => hslashes ⟨tail, htext⟩
    rw [hnone _ (not_slashes_line hno more), hnone text hno]

/-! ### Tokens -/

/-- A numeral. -/
theorem numeral_ignoresLines : IgnoresLines numeral where
  reads text found rest h more := by
    rw [numeral] at h ⊢
    rw [scanNumeral_line]
    cases hscan : scanNumeral text with
    | none =>
      rw [hscan] at h
      cases h
    | some spelled =>
      rw [hscan] at h
      obtain ⟨rfl, rfl⟩ := Prod.mk.inj (Except.ok.inj h)
      rfl
  declines text h more := by
    obtain ⟨stop, hstop, -⟩ := h
    refine .of_unexpected (text ++ '\n' :: more) ?_
    rw [numeral] at hstop ⊢
    rw [scanNumeral_line]
    cases hscan : scanNumeral text with
    | none => rfl
    | some spelled =>
      rw [hscan] at hstop
      cases hstop

/-- A text that goes on with given characters, none of which ends a line, did so before. -/
theorem prefix_of_prefix_line {expected text more : List Char} (hexpected : '\n' ∉ expected)
    (h : expected <+: text ++ '\n' :: more) : expected <+: text := by
  induction expected generalizing text with
  | nil => exact List.nil_prefix
  | cons c rest ih =>
    rw [List.mem_cons, not_or] at hexpected
    cases text with
    | nil => exact absurd (List.cons_prefix_cons.mp h).1.symm hexpected.1
    | cons d tail =>
      obtain ⟨rfl, hrest⟩ := List.cons_prefix_cons.mp h
      exact List.cons_prefix_cons.mpr ⟨rfl, ih hexpected.2 hrest⟩

/-- Given characters, none of which ends a line. -/
theorem exactly_ignoresLines {expected : List Char} (hexpected : '\n' ∉ expected) :
    IgnoresLines (exactly expected) where
  reads text found rest h more := by
    rw [exactly] at h ⊢
    split at h
    · next hprefix =>
      have hlonger := List.isPrefixOf_iff_prefix.mp hprefix
      obtain ⟨-, rfl⟩ := Prod.mk.inj (Except.ok.inj h)
      rw [if_pos (List.isPrefixOf_iff_prefix.mpr (hlonger.trans (List.prefix_append ..))),
        List.drop_append_of_le_length hlonger.length_le]
    · cases h
  declines text h more := by
    obtain ⟨stop, hstop, -⟩ := h
    refine .of_unexpected (text ++ '\n' :: more) ?_
    rw [exactly] at hstop ⊢
    split at hstop
    · cases hstop
    · next hprefix =>
      rw [if_neg]
      exact fun hlonger => hprefix (List.isPrefixOf_iff_prefix.mpr
        (prefix_of_prefix_line hexpected (List.isPrefixOf_iff_prefix.mp hlonger)))

section Demand

variable {demand : List Char → Except Stop Unit} {p : Char → Bool}

/-- A demand on the next character that the end of a line meets is still met before one. -/
theorem demand_line (hline : p '\n' = true)
    (hnext : ∀ c tail, demand (c :: tail) = if p c then .ok () else unexpected (c :: tail))
    {text : List Char} (h : demand text = .ok ()) (more : List Char) :
    demand (text ++ '\n' :: more) = .ok () := by
  cases text with
  | nil => exact (hnext '\n' more).trans (if_pos hline)
  | cons c tail =>
    rw [hnext] at h
    rw [List.cons_append, hnext]
    split
    · rfl
    · next hrefused =>
      rw [if_neg hrefused] at h
      cases h

/-- A demand on the next character that the end of the text and the end of a line meet. -/
theorem demand_ignoresLines {α : Type} (hend : demand [] = .ok ()) (hline : p '\n' = true)
    (hnext : ∀ c tail, demand (c :: tail) = if p c then .ok () else unexpected (c :: tail))
    (value : α) : IgnoresLines fun rest => demand rest >>= fun _ => .ok (value, rest) where
  reads text found rest h more := by
    obtain ⟨⟨⟩, hdemand, hfound⟩ := bind_ok h
    obtain ⟨rfl, rfl⟩ := Prod.mk.inj (Except.ok.inj hfound)
    dsimp only
    rw [demand_line hline hnext hdemand]
    rfl
  declines text h more := by
    obtain ⟨stop, hstop, -⟩ := h
    cases text with
    | nil =>
      dsimp only at hstop
      rw [hend] at hstop
      cases hstop
    | cons c tail =>
      refine .of_unexpected (c :: tail ++ '\n' :: more) ?_
      dsimp only at hstop ⊢
      rw [hnext] at hstop
      rw [List.cons_append, hnext]
      split
      · next hmet =>
        rw [if_pos hmet] at hstop
        cases hstop
      · rfl

end Demand

/-- The end of a token. -/
theorem tokenEnd_ignoresLines {α : Type} (value : α) :
    IgnoresLines fun rest => tokenEnd rest >>= fun _ => .ok (value, rest) :=
  demand_ignoresLines rfl (by decide : isDelimiter '\n' = true) (fun _ _ => rfl) value

/-- What is taken off a text in any case. -/
theorem total_ignoresLines {α : Type} {take : List Char → α × List Char}
    (h : ∀ text more,
      take (text ++ '\n' :: more) = ((take text).1, (take text).2 ++ '\n' :: more)) :
    IgnoresLines fun text => .ok (take text) where
  reads text found rest hfound more := by
    dsimp only
    rw [h, Except.ok.inj hfound]
  declines text hdeclines more := by
    obtain ⟨stop, hstop, -⟩ := hdeclines
    cases hstop

/-- A source is split off before the end of a line. -/
theorem splitRegex_line {escaped : Bool} {text source rest : List Char}
    (h : splitRegex escaped text = some (source, rest)) (more : List Char) :
    splitRegex escaped (text ++ '\n' :: more) = some (source, rest ++ '\n' :: more) := by
  induction text generalizing escaped source with
  | nil => cases escaped <;> cases h
  | cons c tail ih =>
    cases escaped with
    | true =>
      obtain ⟨⟨inner, left⟩, hinner, heq⟩ := Option.map_eq_some_iff.mp h
      obtain ⟨rfl, rfl⟩ := Prod.mk.inj heq
      rw [List.cons_append, splitRegex, ih hinner]
      rfl
    | false =>
      rw [splitRegex] at h
      rw [List.cons_append, splitRegex]
      split at h
      · next hslash =>
        obtain ⟨rfl, rfl⟩ := Prod.mk.inj (Option.some.inj h)
        rw [if_pos hslash]
      · next hslash =>
        obtain ⟨⟨inner, left⟩, hinner, heq⟩ := Option.map_eq_some_iff.mp h
        obtain ⟨rfl, rfl⟩ := Prod.mk.inj heq
        rw [if_neg hslash, ih hinner]
        rfl

section Values

variable [Regex.Engine]

/-- A number. -/
theorem number_ignoresLines : IgnoresLines number :=
  numeral_ignoresLines.bind fun x => tokenEnd_ignoresLines (Value.num x)

/-- A range. -/
theorem range_ignoresLines : IgnoresLines range := by
  have hpoints : IgnoresLines (exactly ['.', '.']) := exactly_ignoresLines (by decide)
  exact numeral_ignoresLines.bind fun start => hpoints.bind fun _ =>
    numeral_ignoresLines.bind fun stop => (total_ignoresLines rangeStep_line).bind fun step =>
      tokenEnd_ignoresLines (Value.range start stop step)

/-- A symbol or a literal word. -/
theorem symbol_keepsReading : KeepsReading symbol := by
  intro text found rest h more
  rw [symbol] at h ⊢
  rw [span_line (by decide +kernel)]
  generalize text.span isSymbolChar = parts at h ⊢
  obtain ⟨run, left⟩ := parts
  cases run with
  | nil => cases h
  | cons first others =>
    dsimp only at h ⊢
    split at h
    · cases h
    · next hdigit =>
      rw [if_neg hdigit]
      exact (tokenEnd_ignoresLines _).reads left found rest h more

/-- A pointer. -/
theorem pointer_ignoresLines : IgnoresLines pointer where
  reads text found rest h more := by
    unfold pointer at h
    split at h
    · next path =>
      rw [List.cons_append, List.cons_append, pointer, span_line (by decide)]
      generalize path.span (!isDelimiter ·) = parts at h ⊢
      obtain ⟨name, left⟩ := parts
      cases name with
      | nil => cases h
      | cons c others =>
        obtain ⟨rfl, rfl⟩ := Prod.mk.inj (Except.ok.inj h)
        rfl
    · cases h
  declines text h more := by
    by_cases hslashes : ∃ path, text = '/' :: '/' :: path
    · obtain ⟨path, rfl⟩ := hslashes
      obtain ⟨stop, hstop, -⟩ := h
      refine .of_unexpected (path ++ '\n' :: more) ?_
      rw [pointer] at hstop
      rw [List.cons_append, List.cons_append, pointer, span_line (by decide)]
      generalize path.span (!isDelimiter ·) = parts at hstop ⊢
      obtain ⟨name, left⟩ := parts
      cases name with
      | nil => rfl
      | cons c others => cases hstop
    · refine .of_unexpected (text ++ '\n' :: more) ?_
      rw [pointer]
      exact not_slashes_line (fun path htext => hslashes ⟨path, htext⟩) more

/-- After a slash, a character that may not start a regular expression. -/
theorem regex_declines_slash {c : Char} (hc : startsRegex c = false) (tail : List Char) :
    Declines regex ('/' :: c :: tail) := by
  refine .of_unexpected ('/' :: c :: tail) ?_
  rw [regex, List.head?_cons, Option.any_some, hc, if_neg Bool.false_ne_true]

/-- A regular expression. -/
theorem regex_ignoresLines : IgnoresLines regex where
  reads text found rest h more := by
    unfold regex at h
    split at h
    · next body =>
      split at h
      · next hfirst =>
        have hlonger : (body ++ '\n' :: more).head?.any startsRegex = true := by
          cases body with
          | nil => cases hfirst
          | cons c tail => exact hfirst
        split at h
        · cases h
        · next source left hsplit =>
          rw [List.cons_append, regex, if_pos hlonger, splitRegex_line hsplit]
          dsimp only
          rw [span_line (by decide)]
          generalize left.span isAsciiLetter = parts at h ⊢
          obtain ⟨⟨⟩, hend, h⟩ := bind_ok h
          have hended := demand_line (by decide : isDelimiter '\n' = true) (fun _ _ => rfl)
            (commit_ok hend) more
          dsimp only at h ⊢
          rw [hended]
          split at h
          · obtain ⟨rfl, rfl⟩ := Prod.mk.inj (Except.ok.inj h)
            rfl
          · cases h
      · cases h
    · cases h
  declines text h more := by
    cases text with
    | nil => exact regex_declines (by decide)
    | cons c rest =>
      by_cases hc : c = '/'
      · subst hc
        cases rest with
        | nil => exact regex_declines_slash (by decide) more
        | cons d tail =>
          cases hd : startsRegex d with
          | true => exact absurd h (regex_not_declines hd tail)
          | false => exact regex_declines_slash hd _
      · exact regex_declines hc

end Values

/-! ### Committed scanners -/

/-- Where there is a stop no other reading is tried. -/
def IsCommitted {α : Type} (outcome : Except Stop α) : Prop :=
  ∀ stop, outcome = .error stop → stop.committed = true

section Committed

variable {α β : Type} {outcome : Except Stop α}

/-- A result is no stop. -/
theorem isCommitted_ok (result : α) : IsCommitted (.ok result : Except Stop α) :=
  fun _ h => nomatch h

/-- A stop for good. -/
theorem isCommitted_failed (trouble : Trouble) (place : List Char) :
    IsCommitted (failed trouble place : Except Stop α) := by
  intro stop h
  obtain rfl := Except.error.inj h
  rfl

/-- A stop that was made final. -/
theorem isCommitted_commit (outcome : Except Stop α) : IsCommitted (commit outcome) := by
  intro stop h
  cases outcome with
  | ok result => cases h
  | error other =>
    obtain rfl := Except.error.inj h
    rfl

/-- One part after another. -/
theorem IsCommitted.bind {next : α → Except Stop β} (h : IsCommitted outcome)
    (hnext : ∀ a, IsCommitted (next a)) : IsCommitted (outcome >>= next) := by
  intro stop hstop
  cases outcome with
  | ok result => exact hnext result stop hstop
  | error other =>
    obtain rfl := Except.error.inj hstop
    exact h other rfl

/-- A changed result. -/
theorem IsCommitted.mapResult {outcome : Except Stop (α × List Char)} (h : IsCommitted outcome)
    (f : α → β) : IsCommitted (Reader.mapResult f outcome) := by
  intro stop hstop
  cases outcome with
  | ok result => cases hstop
  | error other =>
    obtain rfl := Except.error.inj hstop
    exact h other rfl

/-- A committed scanner declines nothing. -/
theorem IsCommitted.not_declines {scanner : Scanner α} {text : List Char}
    (h : IsCommitted (scanner text)) : ¬ Declines scanner text := by
  rintro ⟨stop, hstop, hopen⟩
  rw [h stop hstop] at hopen
  cases hopen

end Committed

/-! ### Strings and words -/

/-- The rest of a string leaves no other reading. -/
theorem stringBody_isCommitted (text : List Char) : IsCommitted (stringBody text) := by
  fun_induction stringBody text with
  | case1 => exact isCommitted_failed _ _
  | case2 => exact isCommitted_failed _ _
  | case3 letter rest c _ ih => exact ih.mapResult _
  | case4 => exact isCommitted_failed _ _
  | case5 => exact isCommitted_ok _
  | case6 c rest _ _ _ ih => exact ih.mapResult _

/-- The rest of a string ends at its own quote. -/
theorem stringBody_keepsReading : KeepsReading stringBody := by
  intro text
  fun_induction stringBody text with
  | case1 =>
    intro found left h
    cases h
  | case2 =>
    intro found left h
    cases h
  | case3 letter rest c hletter ih =>
    intro found left h more
    obtain ⟨inner, hinner, rfl⟩ := mapResult_ok h
    rw [List.cons_append, List.cons_append, stringBody, hletter]
    dsimp only
    rw [ih inner left hinner more, mapResult]
  | case4 =>
    intro found left h
    cases h
  | case5 rest =>
    intro found left h more
    obtain ⟨rfl, rfl⟩ := Prod.mk.inj (Except.ok.inj h)
    rfl
  | case6 c rest hlone hescape hquote ih =>
    intro found left h more
    obtain ⟨inner, hinner, rfl⟩ := mapResult_ok h
    have hplain : c ≠ '\\' := by
      rintro rfl
      cases rest with
      | nil => exact hlone rfl rfl
      | cons letter others => exact hescape letter others rfl rfl
    rw [List.cons_append, stringBody, if_neg hquote, ih inner left hinner more, mapResult]
    · exact fun hc => absurd hc hplain
    · exact fun _ _ hc => absurd hc hplain

/-- The text of a string. -/
theorem stringText_ignoresLines : IgnoresLines stringText where
  reads text found rest h more := by
    unfold stringText at h
    split at h
    · next body =>
      rw [List.cons_append, stringText]
      exact stringBody_keepsReading.mapResult _ body found rest h more
    · cases h
  declines := by
    refine .of_first (fun more => stringText_declines (by decide)) fun c tail h more => ?_
    by_cases hc : c = '"'
    · subst hc
      exact absurd h ((stringBody_isCommitted tail).mapResult _).not_declines
    · exact stringText_declines hc

/-- A bare word. -/
theorem bareWord_keepsReading : KeepsReading bareWord := by
  intro text found rest h more
  rw [bareWord] at h ⊢
  rw [span_line (by decide)]
  generalize text.span isWordChar = parts at h ⊢
  obtain ⟨word, left⟩ := parts
  cases word with
  | nil => cases h
  | cons c others =>
    obtain ⟨rfl, rfl⟩ := Prod.mk.inj (Except.ok.inj h)
    rfl

/-- The end of a number in a document. -/
theorem documentEnd_ignoresLines {α : Type} (value : α) :
    IgnoresLines fun rest => documentEnd rest >>= fun _ => .ok (value, rest) := by
  have hline : (isWhitespace '\n' || [',', ':', '\x7d', ']'].contains '\n') = true := by decide
  exact demand_ignoresLines rfl hline (fun _ _ => rfl) value

/-- A number as a document. -/
theorem numberDocument_ignoresLines : IgnoresLines numberDocument :=
  numeral_ignoresLines.bind fun x => documentEnd_ignoresLines (Json.ofNumber x)

/-- A token. -/
theorem token_keepsReading [Regex.Engine] : KeepsReading token :=
  .either (stringText_ignoresLines.mapResult _) (.either pointer_ignoresLines
    (.either regex_ignoresLines (.either range_ignoresLines
      (.either number_ignoresLines symbol_keepsReading))))

end ShapeLisp.Reader
