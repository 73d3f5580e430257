import ShapeLisp.Number.Numeral
import Mathlib.Data.List.TakeDrop

/-!
# The grammar of numerals

A numeral is an optional sign, digits, an optional point with digits and an optional mark with a
power of ten. The grammar is given as a relation between the parts of a numeral and its spelling.
The scanner finds exactly the spellings: what it takes off a text is one, and a spelling before a
text that cannot prolong it is taken off as a whole.
-/

namespace ShapeLisp.Number

open ShapeLisp.Text

/-- A run that is split off by its own characters ends where the rest begins. -/
theorem span_append {p : Char → Bool} {run rest : List Char} (hrun : ∀ c ∈ run, p c = true)
    (hrest : ∀ c tail, rest = c :: tail → p c = false) : (run ++ rest).span p = (run, rest) := by
  have hstop : rest.takeWhile p = [] ∧ rest.dropWhile p = rest := by
    cases rest with
    | nil => exact ⟨rfl, rfl⟩
    | cons c tail =>
      have hc := hrest c tail rfl
      exact ⟨List.takeWhile_cons_of_neg (by simp [hc]), List.dropWhile_cons_of_neg (by simp [hc])⟩
  rw [List.span_eq_takeWhile_dropWhile, List.takeWhile_append_of_pos hrun,
    List.dropWhile_append_of_pos hrun, hstop.1, hstop.2, List.append_nil]

/-- What is split off has the property, and nothing is lost. -/
theorem span_sound {p : Char → Bool} {text run rest : List Char} (h : text.span p = (run, rest)) :
    (∀ c ∈ run, p c = true) ∧ text = run ++ rest := by
  rw [List.span_eq_takeWhile_dropWhile] at h
  obtain ⟨hrun, hrest⟩ := Prod.mk.inj h
  subst hrun hrest
  exact ⟨fun c hc => List.all_eq_true.mp List.all_takeWhile c hc,
    List.takeWhile_append_dropWhile.symm⟩

/-- An optional sign, and whether it is a minus. -/
inductive SignText : Bool → List Char → Prop where
  /-- A minus. -/
  | minus : SignText true ['-']
  /-- A plus. -/
  | plus : SignText false ['+']
  /-- No sign. -/
  | missing : SignText false []

/-- One digit or more. -/
structure DigitText (digits : List Char) : Prop where
  /-- There is a digit. -/
  nonempty : digits ≠ []
  /-- There are digits only. -/
  all : ∀ c ∈ digits, isAsciiDigit c = true

/-- The digits after the point, and the point with them. -/
inductive FractionText : List Char → List Char → Prop where
  /-- A point and digits. -/
  | point {digits : List Char} (hdigits : DigitText digits) : FractionText digits ('.' :: digits)
  /-- No fraction. -/
  | missing : FractionText [] []

/-- A power of ten, and its mark, sign and digits. -/
inductive PowerText : Int → List Char → Prop where
  /-- A mark, an optional sign and digits. -/
  | mark {mark : Char} {negative : Bool} {sign digits : List Char}
      (hmark : mark = 'e' ∨ mark = 'E') (hsign : SignText negative sign)
      (hdigits : DigitText digits) :
      PowerText (if negative then -(digitsValue digits : Int) else digitsValue digits)
        (mark :: sign ++ digits)
  /-- No power. -/
  | missing : PowerText 0 []

/-- The spellings of a numeral. -/
inductive Numeral.Spells (numeral : Numeral) : List Char → Prop where
  /-- A sign, digits, a fraction and a power, one after the other. -/
  | parts {sign fraction power : List Char} (hsign : SignText numeral.negative sign)
      (hwhole : DigitText numeral.whole) (hfraction : FractionText numeral.fraction fraction)
      (hpower : PowerText numeral.exponent power) :
      numeral.Spells (sign ++ numeral.whole ++ fraction ++ power)

/-- A text that cannot prolong a numeral before it. -/
structure EndsNumeral (rest : List Char) : Prop where
  /-- It goes on neither with a digit nor with the mark of a power. -/
  first : ∀ c tail, rest = c :: tail → isAsciiDigit c = false ∧ c ≠ 'e' ∧ c ≠ 'E'
  /-- It does not go on with a point and a digit. -/
  point : ∀ c tail, rest = '.' :: c :: tail → isAsciiDigit c = false

/-- The end of a text prolongs nothing. -/
theorem EndsNumeral.nil : EndsNumeral [] where
  first _ _ h := by cases h
  point _ _ h := by cases h

/-- A character that has no place in a numeral prolongs nothing. -/
theorem EndsNumeral.cons {c : Char} (hc : isAsciiDigit c = false ∧ c ≠ 'e' ∧ c ≠ 'E')
    (hpoint : c ≠ '.') (tail : List Char) : EndsNumeral (c :: tail) where
  first _ _ h := by
    obtain ⟨rfl, -⟩ := List.cons.inj h
    exact hc
  point _ _ h := absurd (List.cons.inj h).1 hpoint

/-- Digits are no signs. -/
theorem scanSign_append {negative : Bool} {sign digits : List Char} (hsign : SignText negative sign)
    (hdigits : DigitText digits) (rest : List Char) :
    scanSign (sign ++ digits ++ rest) = (negative, digits ++ rest) := by
  cases hsign with
  | minus => rfl
  | plus => rfl
  | missing =>
    obtain ⟨hnonempty, hall⟩ := hdigits
    cases digits with
    | nil => exact absurd rfl hnonempty
    | cons digit more =>
      have hdigit := hall digit List.mem_cons_self
      have hminus : digit ≠ '-' := by
        rintro rfl
        exact absurd hdigit (by decide)
      have hplus : digit ≠ '+' := by
        rintro rfl
        exact absurd hdigit (by decide)
      rw [List.nil_append, List.cons_append, scanSign]
      · rintro rest ⟨rfl, -⟩
        exact hminus rfl
      · rintro rest ⟨rfl, -⟩
        exact hplus rfl

/-- The sign that the scanner takes off. -/
theorem scanSign_sound {text unsigned : List Char} {negative : Bool}
    (h : scanSign text = (negative, unsigned)) :
    ∃ sign, SignText negative sign ∧ text = sign ++ unsigned := by
  unfold scanSign at h
  split at h <;> obtain ⟨rfl, rfl⟩ := Prod.mk.inj h
  · exact ⟨_, .minus, rfl⟩
  · exact ⟨_, .plus, rfl⟩
  · exact ⟨_, .missing, rfl⟩

/-- Digits are taken off up to the first other character. -/
theorem spanDigits_append {digits rest : List Char} (hdigits : DigitText digits)
    (hrest : ∀ c tail, rest = c :: tail → isAsciiDigit c = false) :
    spanDigits (digits ++ rest) = (digits, rest) :=
  span_append hdigits.all hrest

/-- The digits that the scanner takes off. -/
theorem spanDigits_sound {text digits rest : List Char} (h : spanDigits text = (digits, rest))
    (hnonempty : digits ≠ []) : DigitText digits ∧ text = digits ++ rest :=
  ⟨⟨hnonempty, (span_sound h).1⟩, (span_sound h).2⟩

/-- The power after its mark is taken off. -/
theorem scanPower_append {negative : Bool} {sign digits rest : List Char}
    (hsign : SignText negative sign) (hdigits : DigitText digits) (hrest : EndsNumeral rest) :
    scanPower (sign ++ digits ++ rest) =
      some (if negative then -(digitsValue digits : Int) else digitsValue digits, rest) := by
  have hspan := spanDigits_append hdigits fun c tail h => (hrest.first c tail h).1
  rw [scanPower, scanSign_append hsign hdigits rest]
  dsimp only
  rw [hspan]
  cases digits with
  | nil => exact absurd rfl hdigits.nonempty
  | cons digit more => rfl

/-- The power that the scanner takes off. -/
theorem scanPower_sound {mark : Char} (hmark : mark = 'e' ∨ mark = 'E') {text rest : List Char}
    {exponent : Int} (h : scanPower text = some (exponent, rest)) :
    ∃ power, PowerText exponent power ∧ mark :: text = power ++ rest := by
  unfold scanPower at h
  cases hscan : scanSign text with
  | mk negative unsigned =>
    obtain ⟨sign, hsign, rfl⟩ := scanSign_sound hscan
    rw [hscan] at h
    dsimp only at h
    split at h
    · cases h
    · next digits left hnonempty hspan =>
      obtain ⟨hdigits, rfl⟩ := spanDigits_sound hspan hnonempty
      cases h
      exact ⟨_, .mark hmark hsign hdigits, by simp⟩

/-- A fraction is taken off. -/
theorem scanFraction_append {digits fraction rest : List Char}
    (hfraction : FractionText digits fraction)
    (hrest : ∀ c tail, rest = c :: tail → isAsciiDigit c = false)
    (hpoint : ∀ c tail, rest = '.' :: c :: tail → isAsciiDigit c = false) :
    scanFraction (fraction ++ rest) = (digits, rest) := by
  cases hfraction with
  | point hdigits =>
    rw [List.cons_append, scanFraction, spanDigits_append hdigits hrest]
    cases digits with
    | nil => exact absurd rfl hdigits.nonempty
    | cons digit more => rfl
  | missing =>
    rw [List.nil_append]
    unfold scanFraction
    split
    · next tail =>
      have hspan : spanDigits tail = ([], tail) :=
        @span_append isAsciiDigit [] tail (by simp) fun c more h => hpoint c more (by rw [h])
      rw [hspan]
    · rfl

/-- The fraction that the scanner takes off. -/
theorem scanFraction_sound {text digits rest : List Char}
    (h : scanFraction text = (digits, rest)) :
    ∃ fraction, FractionText digits fraction ∧ text = fraction ++ rest := by
  unfold scanFraction at h
  split at h
  · next tail =>
    split at h
    · obtain ⟨rfl, rfl⟩ := Prod.mk.inj h
      exact ⟨_, .missing, rfl⟩
    · next found hnonempty =>
      obtain ⟨hdigits, rfl⟩ := spanDigits_sound h fun hnil => hnonempty rest (by rw [h, hnil])
      exact ⟨_, .point hdigits, rfl⟩
  · obtain ⟨rfl, rfl⟩ := Prod.mk.inj h
    exact ⟨_, .missing, rfl⟩

/-- A power with its mark is taken off. -/
theorem scanExponent_append {exponent : Int} {power rest : List Char}
    (hpower : PowerText exponent power) (hrest : EndsNumeral rest) :
    scanExponent (power ++ rest) = (exponent, rest) := by
  cases hpower with
  | mark hmark hsign hdigits =>
    have hscan := scanPower_append hsign hdigits hrest
    rw [List.cons_append, List.cons_append, scanExponent, if_pos (by simpa using hmark), hscan,
      Option.getD_some]
  | missing =>
    cases rest with
    | nil => rfl
    | cons c tail =>
      obtain ⟨-, hlower, hupper⟩ := hrest.first c tail rfl
      rw [List.nil_append, scanExponent, if_neg (by simp [hlower, hupper])]

/-- The power with its mark that the scanner takes off. -/
theorem scanExponent_sound {text rest : List Char} {exponent : Int}
    (h : scanExponent text = (exponent, rest)) :
    ∃ power, PowerText exponent power ∧ text = power ++ rest := by
  cases text with
  | nil =>
    obtain ⟨rfl, rfl⟩ := Prod.mk.inj h
    exact ⟨_, .missing, rfl⟩
  | cons c tail =>
    rw [scanExponent] at h
    split at h
    · next hmark =>
      cases hscan : scanPower tail with
      | none =>
        rw [hscan, Option.getD_none] at h
        obtain ⟨rfl, rfl⟩ := Prod.mk.inj h
        exact ⟨_, .missing, rfl⟩
      | some found =>
        rw [hscan, Option.getD_some] at h
        subst h
        exact scanPower_sound (by simpa using hmark) hscan
    · obtain ⟨rfl, rfl⟩ := Prod.mk.inj h
      exact ⟨_, .missing, rfl⟩

/-- What follows the digits of a numeral is no digit. -/
theorem first_of_power {exponent : Int} {power rest : List Char}
    (hpower : PowerText exponent power) (hrest : EndsNumeral rest) :
    (∀ c tail, power ++ rest = c :: tail → isAsciiDigit c = false) ∧
      ∀ c tail, power ++ rest = '.' :: c :: tail → isAsciiDigit c = false := by
  cases hpower with
  | mark hmark hsign hdigits =>
    constructor
    · intro c tail h
      obtain ⟨rfl, -⟩ := List.cons.inj h
      rcases hmark with rfl | rfl <;> decide
    · intro c tail h
      obtain ⟨rfl, -⟩ := List.cons.inj h
      rcases hmark with hmark | hmark <;> cases hmark
  | missing => exact ⟨fun c tail h => (hrest.first c tail h).1, hrest.point⟩

/-- A spelling is taken off a text that does not prolong it. -/
theorem scanNumeral_append {numeral : Numeral} {spelling rest : List Char}
    (hspells : numeral.Spells spelling) (hrest : EndsNumeral rest) :
    scanNumeral (spelling ++ rest) = some (numeral, rest) := by
  obtain ⟨negative, whole, digits, exponent⟩ := numeral
  cases hspells with
  | parts hsign hwhole hfraction hpower =>
    next sign fraction power =>
    dsimp only at hsign hwhole hfraction hpower ⊢
    obtain ⟨hfirst, hpoint⟩ := first_of_power hpower hrest
    have hafter : ∀ c tail, fraction ++ (power ++ rest) = c :: tail → isAsciiDigit c = false := by
      intro c tail h
      cases hfraction with
      | point hdigits =>
        obtain ⟨rfl, -⟩ := List.cons.inj h
        rfl
      | missing => exact hfirst c tail h
    have hspan := spanDigits_append hwhole hafter
    have hsigned := scanSign_append hsign hwhole (fraction ++ (power ++ rest))
    have htext : sign ++ whole ++ fraction ++ power ++ rest =
        sign ++ whole ++ (fraction ++ (power ++ rest)) := by
      simp only [List.append_assoc]
    rw [htext, scanNumeral, hsigned]
    dsimp only
    rw [hspan]
    cases whole with
    | nil => exact absurd rfl hwhole.nonempty
    | cons digit more =>
      dsimp only
      rw [scanFraction_append hfraction hfirst hpoint]
      dsimp only
      rw [scanExponent_append hpower hrest]

/-- What is taken off a text is a spelling. -/
theorem scanNumeral_sound {text rest : List Char} {numeral : Numeral}
    (h : scanNumeral text = some (numeral, rest)) :
    ∃ spelling, numeral.Spells spelling ∧ text = spelling ++ rest := by
  unfold scanNumeral at h
  cases hsigned : scanSign text with
  | mk negative unsigned =>
    obtain ⟨sign, hsign, rfl⟩ := scanSign_sound hsigned
    rw [hsigned] at h
    dsimp only at h
    split at h
    · cases h
    · next whole afterWhole hnonempty hspan =>
      obtain ⟨hwhole, rfl⟩ := spanDigits_sound hspan hnonempty
      cases hscan : scanFraction afterWhole with
      | mk digits afterFraction =>
        obtain ⟨fraction, hfraction, rfl⟩ := scanFraction_sound hscan
        rw [hscan] at h
        dsimp only at h
        cases hexponent : scanExponent afterFraction with
        | mk exponent left =>
          obtain ⟨power, hpower, rfl⟩ := scanExponent_sound hexponent
          rw [hexponent] at h
          cases h
          exact ⟨_, .parts hsign hwhole hfraction hpower, by simp only [List.append_assoc]⟩

end ShapeLisp.Number
