import Mathlib
import ShapeLisp.Json.Text
import ShapeLisp.Proofs.Number.Grammar
import ShapeLisp.Proofs.Number.Shortest

/-!
# Written numbers read back

Every text that is printed for a finite number is the spelling of a numeral whose value is the
number again, whichever layout it is written in. In the notation of the language the sign of a
zero is lost, so there a zero reads back as the other one.
-/

namespace ShapeLisp.Number

open ShapeLisp.Text

/-! ### Digits -/

/-- The value of digits is that of the library. -/
theorem digitsValue_eq (digits : List Char) :
    digitsValue digits = Nat.ofDigitChars 10 digits 0 := by
  rw [digitsValue, Nat.ofDigitChars_eq_foldl]
  congr 1
  funext value c
  rw [Nat.mul_comm]

/-- Zeros at the end multiply by powers of ten. -/
theorem digitsValue_append_zeros (digits : List Char) (count : ℕ) :
    digitsValue (digits ++ List.replicate count '0') = digitsValue digits * 10 ^ count := by
  rw [digitsValue_eq, digitsValue_eq, Nat.ofDigitChars_append, Nat.ofDigitChars_replicate_zero,
    Nat.mul_comm]

/-- Zeros at the front do not count. -/
theorem digitsValue_zeros_append (digits : List Char) (count : ℕ) :
    digitsValue (List.replicate count '0' ++ digits) = digitsValue digits := by
  rw [digitsValue_eq, digitsValue_eq, Nat.ofDigitChars_append, Nat.ofDigitChars_replicate_zero,
    Nat.mul_zero]

/-- The digits of a whole number denote it. -/
theorem digitsValue_wholeText (n : ℕ) : digitsValue (wholeText n) = n := by
  rw [digitsValue_eq, wholeText, Nat.ofDigitChars_ten_toDigits]

/-- A whole number is written with digits. -/
theorem digitText_wholeText (n : ℕ) : DigitText (wholeText n) where
  nonempty := List.ne_nil_of_length_pos (digitCount_pos n)
  all c hc := by
    have hdigit := Nat.isDigit_of_mem_toDigits (by norm_num) (by norm_num) hc
    rw [Char.isDigit, Bool.and_eq_true] at hdigit
    rw [isAsciiDigit, Bool.and_eq_true, decide_eq_true_eq, decide_eq_true_eq]
    exact ⟨of_decide_eq_true hdigit.1, of_decide_eq_true hdigit.2⟩

/-- Zeros are digits. -/
theorem isAsciiDigit_of_mem_replicate {count : ℕ} {c : Char} (h : c ∈ List.replicate count '0') :
    isAsciiDigit c = true := by
  rw [List.eq_of_mem_replicate h]
  rfl

/-- The sign that is written in front of a number. -/
def signMark (negative : Bool) : List Char := if negative then ['-'] else []

/-- It is a sign of the grammar. -/
theorem signText_signMark (negative : Bool) : SignText negative (signMark negative) := by
  cases negative with
  | true => exact .minus
  | false => exact .missing

/-! ### Decimals -/

/-- The value of a decimal. -/
def Decimal.value (decimal : Decimal) : ℚ := decimal.digits * 10 ^ decimal.exponent

/-- The exact value of a numeral without its sign. -/
def Numeral.amount (numeral : Numeral) : ℚ :=
  digitsValue (numeral.whole ++ numeral.fraction) *
    10 ^ (numeral.exponent - numeral.fraction.length)

/-- A numeral whose exact value reads as the magnitude of a number denotes this number. -/
theorem Numeral.value_eq {x : Float} (hx : x.isFinite = true)
    (hpos : 0 < (magnitude x).mantissa) {numeral : Numeral}
    (hsign : numeral.negative = isNegative x) (hreads : (magnitude x).Reads numeral.amount) :
    numeral.value = x := by
  obtain ⟨hleast, -⟩ := hreads.bounds (isCanonical_magnitude x hx) hpos
  have hdigits : 0 < digitsValue (numeral.whole ++ numeral.fraction) := by
    apply Nat.pos_of_ne_zero
    intro hzero
    rw [amount, hzero, Nat.cast_zero, zero_mul] at hleast
    exact absurd hleast (not_le.mpr (two_zpow_pos _))
  rw [value, hsign]
  exact ofDecimal_eq hx hpos hdigits hreads

/-- The layouts whose marks the grammar knows. -/
structure Layout.IsSpelled (layout : Layout) : Prop where
  /-- A whole number is followed by nothing or by a point and a zero. -/
  wholeMark : layout.wholeMark = [] ∨ layout.wholeMark = ['.', '0']
  /-- A power that is not negative carries a plus or no sign. -/
  plusMark : SignText false layout.plusMark

/-- The layout of the language is one. -/
theorem Layout.isSpelled_plain : Layout.plain.IsSpelled := ⟨.inl rfl, .missing⟩

/-- The layout of JSON text is one. -/
theorem Layout.isSpelled_json : Layout.json.IsSpelled := ⟨.inr rfl, .plus⟩

/-- A text spells a decimal with a sign. -/
def SpellsDecimal (negative : Bool) (decimal : Decimal) (text : List Char) : Prop :=
  ∃ numeral : Numeral, numeral.negative = negative ∧ numeral.Spells text ∧
    numeral.amount = decimal.value

/-- A sign, digits, a fraction and a power spell the decimal that they amount to. -/
theorem SpellsDecimal.of_parts {decimal : Decimal} {whole digits fraction power : List Char}
    {exponent : ℤ} (negative : Bool) (hwhole : DigitText whole)
    (hfraction : FractionText digits fraction) (hpower : PowerText exponent power)
    (hvalue : (digitsValue (whole ++ digits) : ℚ) * 10 ^ (exponent - digits.length) =
      decimal.value) :
    SpellsDecimal negative decimal (signMark negative ++ (whole ++ fraction ++ power)) := by
  refine ⟨⟨negative, whole, digits, exponent⟩, rfl, ?_, hvalue⟩
  rw [← List.append_assoc, ← List.append_assoc]
  exact .parts (signText_signMark negative) hwhole hfraction hpower

/-- A power is not needed. -/
theorem SpellsDecimal.of_fraction {decimal : Decimal} {whole digits fraction : List Char}
    (negative : Bool) (hwhole : DigitText whole) (hfraction : FractionText digits fraction)
    (hvalue : (digitsValue (whole ++ digits) : ℚ) * 10 ^ (0 - (digits.length : ℤ)) =
      decimal.value) :
    SpellsDecimal negative decimal (signMark negative ++ (whole ++ fraction)) := by
  rw [← List.append_nil (whole ++ fraction)]
  exact .of_parts negative hwhole hfraction .missing hvalue

/-- The digits of a whole number with zeros after them and a mark spell it. -/
theorem spellsDecimal_whole {mark : List Char} (hmark : mark = [] ∨ mark = ['.', '0'])
    (negative : Bool) {decimal : Decimal} (hexponent : 0 ≤ decimal.exponent) :
    SpellsDecimal negative decimal (signMark negative ++
      (wholeText decimal.digits ++ List.replicate decimal.exponent.toNat '0' ++ mark)) := by
  obtain ⟨power, hpower⟩ := Int.eq_ofNat_of_zero_le hexponent
  have hdigits := digitText_wholeText decimal.digits
  have hwhole : DigitText (wholeText decimal.digits ++ List.replicate power '0') := by
    refine ⟨by simp [hdigits.nonempty], fun c hc => ?_⟩
    rcases List.mem_append.mp hc with hc | hc
    · exact hdigits.all c hc
    · exact isAsciiDigit_of_mem_replicate hc
  have hvalue := digitsValue_append_zeros (wholeText decimal.digits) power
  rw [digitsValue_wholeText] at hvalue
  rw [hpower, Int.toNat_natCast]
  rcases hmark with rfl | rfl
  · apply SpellsDecimal.of_fraction negative hwhole .missing
    rw [List.append_nil, hvalue, Decimal.value, hpower]
    simp
  · have hzero : DigitText ['0'] := ⟨by simp, by simp; rfl⟩
    have hlonger := digitsValue_append_zeros
      (wholeText decimal.digits ++ List.replicate power '0') 1
    apply SpellsDecimal.of_fraction negative hwhole (.point hzero)
    rw [show ['0'] = List.replicate 1 '0' from rfl, hlonger, hvalue, Decimal.value, hpower]
    simp

/-- Digits with a point among them, and with zeros in front where they are too few, spell the
decimal. -/
theorem spellsDecimal_fraction (negative : Bool) {decimal : Decimal}
    (hexponent : decimal.exponent < 0) {padded : List Char}
    (hpadded : padded = List.replicate
      ((-decimal.exponent).toNat + 1 - (wholeText decimal.digits).length) '0' ++
        wholeText decimal.digits) :
    SpellsDecimal negative decimal (signMark negative ++
      (padded.take (padded.length - (-decimal.exponent).toNat) ++
        '.' :: padded.drop (padded.length - (-decimal.exponent).toNat))) := by
  obtain ⟨places, hplaces⟩ := Int.eq_ofNat_of_zero_le (show 0 ≤ -decimal.exponent by omega)
  have hnegative : decimal.exponent = -(places : ℤ) := by omega
  rw [hplaces, Int.toNat_natCast] at hpadded ⊢
  have hlength : places + 1 ≤ padded.length := by
    rw [hpadded, List.length_append, List.length_replicate]
    omega
  have hall : ∀ c ∈ padded, isAsciiDigit c = true := by
    intro c hc
    rw [hpadded] at hc
    rcases List.mem_append.mp hc with hc | hc
    · exact isAsciiDigit_of_mem_replicate hc
    · exact (digitText_wholeText decimal.digits).all c hc
  have hvalue : digitsValue padded = decimal.digits := by
    rw [hpadded, digitsValue_zeros_append, digitsValue_wholeText]
  have hwhole : DigitText (padded.take (padded.length - places)) :=
    ⟨List.ne_nil_of_length_pos (by rw [List.length_take]; omega),
      fun c hc => hall c (List.mem_of_mem_take hc)⟩
  have hfraction : DigitText (padded.drop (padded.length - places)) :=
    ⟨List.ne_nil_of_length_pos (by rw [List.length_drop]; omega),
      fun c hc => hall c (List.mem_of_mem_drop hc)⟩
  apply SpellsDecimal.of_fraction negative hwhole (.point hfraction)
  rw [List.take_append_drop, hvalue, List.length_drop, Decimal.value, hnegative]
  congr 2
  omega

/-- Digits with the point where it belongs spell the decimal. -/
theorem spellsDecimal_positional {layout : Layout} (hlayout : layout.IsSpelled) (negative : Bool)
    (decimal : Decimal) :
    SpellsDecimal negative decimal (signMark negative ++ layout.positional decimal) := by
  unfold Layout.positional
  dsimp only
  split
  · next hexponent => exact spellsDecimal_whole hlayout.wholeMark negative hexponent
  · next hexponent => exact spellsDecimal_fraction negative (by omega) rfl

/-- The exponent of a power is written with digits and the signs of the grammar. -/
theorem powerText_exponent {layout : Layout} (hlayout : layout.IsSpelled) (order : ℤ) :
    PowerText order
      ('e' :: (if order < 0 then integerText order else layout.plusMark ++ integerText order)) := by
  have hdigits := digitText_wholeText order.natAbs
  have hvalue := digitsValue_wholeText order.natAbs
  unfold integerText
  split
  · next hnegative =>
    have hpower := PowerText.mark (.inl rfl) .minus hdigits
    rw [hvalue, if_pos rfl, show -(order.natAbs : ℤ) = order by omega] at hpower
    exact hpower
  · next hnegative =>
    have hpower := PowerText.mark (.inl rfl) hlayout.plusMark hdigits
    rw [hvalue, if_neg (by simp), show (order.natAbs : ℤ) = order by omega] at hpower
    exact hpower

/-- Digits with the point after the first and a power of ten spell the decimal. -/
theorem spellsDecimal_scientific {layout : Layout} (hlayout : layout.IsSpelled) (negative : Bool)
    {decimal : Decimal} {order : ℤ}
    (horder : order = (digitCount decimal.digits : ℤ) - 1 + decimal.exponent) :
    SpellsDecimal negative decimal (signMark negative ++ layout.scientific decimal order) := by
  have hpower := powerText_exponent hlayout order
  have hdigits := digitText_wholeText decimal.digits
  have hvalue := digitsValue_wholeText decimal.digits
  have hcount : digitCount decimal.digits = (wholeText decimal.digits).length := rfl
  unfold Layout.scientific
  dsimp only
  cases htext : wholeText decimal.digits with
  | nil => exact absurd htext hdigits.nonempty
  | cons digit more =>
    rw [htext] at hdigits hvalue hcount
    have hfirst : DigitText [digit] := ⟨by simp, by simp [hdigits.all digit]⟩
    cases more with
    | nil =>
      have hspells := @SpellsDecimal.of_parts decimal _ _ _ _ _ negative hfirst .missing hpower
      rw [List.append_nil] at hspells
      apply hspells
      rw [hvalue, Decimal.value, horder, hcount]
      simp
    | cons second rest =>
      have hmore : DigitText (second :: rest) :=
        ⟨by simp, fun c hc => hdigits.all c (List.mem_cons_of_mem digit hc)⟩
      apply SpellsDecimal.of_parts negative hfirst (.point hmore) hpower
      rw [List.singleton_append, hvalue, Decimal.value, horder, hcount]
      congr 2
      simp

/-! ### Numbers -/

/-- The text of a finite number other than zero is the spelling of a numeral that denotes it. -/
theorem Layout.IsSpelled.spells_text {layout : Layout} (hlayout : layout.IsSpelled) {x : Float}
    (hx : x.isFinite = true) (hpos : 0 < (magnitude x).mantissa) :
    ∃ numeral : Numeral, numeral.Spells (layout.text x) ∧ numeral.value = x := by
  have hsize := isCanonical_magnitude x hx
  have hspells : SpellsDecimal (isNegative x) (shortest layout.tie (magnitude x))
      (layout.text x) := by
    unfold Layout.text Layout.magnitudeText
    dsimp only
    rw [isNaN_eq_false x hx, hx, if_neg (by simp), if_neg (by simp), if_neg hpos.ne',
      ← signMark]
    split
    · exact spellsDecimal_positional hlayout _ _
    · exact spellsDecimal_scientific hlayout _ rfl
  obtain ⟨numeral, hsign, hspelling, hamount⟩ := hspells
  refine ⟨numeral, hspelling, numeral.value_eq hx hpos hsign ?_⟩
  rw [hamount]
  exact reads_shortest hsize hpos layout.tie

/-- A magnitude is zero exactly when its mantissa is. -/
theorem Magnitude.whole_eq_zero {size : Magnitude} (hzero : size.mantissa = 0) :
    size.whole = 0 ∧ size.isWhole = true := by
  unfold Magnitude.whole Magnitude.isWhole
  rw [hzero]
  simp

/-- A zero is an exact integer. -/
theorem exactInteger?_of_zero {x : Float} (hx : x.isFinite = true)
    (hzero : (magnitude x).mantissa = 0) : exactInteger? x = some 0 := by
  obtain ⟨hnothing, hwhole⟩ := Magnitude.whole_eq_zero hzero
  rw [exactInteger?, isIntegral, hx, hwhole, hnothing, integerPart, hnothing]
  simp

/-- A number that is no exact integer is not zero. -/
theorem mantissa_pos_of_exactInteger? {x : Float} (hx : x.isFinite = true)
    (hnone : exactInteger? x = none) : 0 < (magnitude x).mantissa := by
  apply Nat.pos_of_ne_zero
  intro hzero
  rw [exactInteger?_of_zero hx hzero] at hnone
  cases hnone

/-- The numeral of a lone zero. -/
def Numeral.zero : Numeral := ⟨false, ['0'], [], 0⟩

/-- A lone zero denotes the same number as every zero. -/
theorem Numeral.same_zero {x : Float} (hx : x.isFinite = true)
    (hzero : (magnitude x).mantissa = 0) : Same Numeral.zero.value x :=
  .of_zero (by decide +kernel) hx (by decide +kernel) hzero

/-- A lone zero is its spelling. -/
theorem Numeral.spells_zero : Numeral.zero.Spells ['0'] := by
  have hzero : DigitText Numeral.zero.whole := ⟨by simp [Numeral.zero], by simp [Numeral.zero]; rfl⟩
  exact .parts .missing hzero .missing .missing

/-- The integer part of a whole number other than zero is spelled with its sign. -/
theorem integerText_integerPart {x : Float} (hwhole : 0 < (magnitude x).whole) :
    integerText (integerPart x) = signMark (isNegative x) ++ wholeText (magnitude x).whole := by
  unfold integerText integerPart signMark
  cases isNegative x with
  | true => simp [hwhole]
  | false => simp

/-- The text of an exact integer spells it, up to the sign of zero. -/
theorem spells_integerText {x : Float} {n : ℤ} (hsome : exactInteger? x = some n) :
    ∃ numeral : Numeral, numeral.Spells (integerText n) ∧ Same numeral.value x := by
  rw [exactInteger?, isIntegral, Option.ite_none_right_eq_some, Option.some.injEq] at hsome
  obtain ⟨hexact, rfl⟩ := hsome
  simp only [Bool.and_eq_true] at hexact
  obtain ⟨⟨hx, hwhole⟩, -⟩ := hexact
  rcases Nat.eq_zero_or_pos (magnitude x).mantissa with hzero | hpos
  · obtain ⟨hnothing, -⟩ := Magnitude.whole_eq_zero hzero
    have hpart : integerPart x = 0 := by simp [integerPart, hnothing]
    rw [hpart]
    exact ⟨_, Numeral.spells_zero, Numeral.same_zero hx hzero⟩
  · have hvalue := Magnitude.value_eq_whole hwhole
    have hreads := (magnitude x).reads_value
    rw [hvalue] at hreads
    have hsome : 0 < (magnitude x).whole := by
      have hamount : (0 : ℚ) < (magnitude x).whole := hvalue ▸ Magnitude.value_pos hpos
      exact_mod_cast hamount
    obtain ⟨numeral, hsign, hspelling, hamount⟩ :=
      @spellsDecimal_whole [] (.inl rfl) (isNegative x) ⟨(magnitude x).whole, 0⟩ le_rfl
    rw [Decimal.value, zpow_zero, mul_one] at hamount
    rw [Int.toNat_zero, List.replicate_zero, List.append_nil, List.append_nil] at hspelling
    rw [integerText_integerPart hsome]
    exact ⟨numeral, hspelling, .inl (numeral.value_eq hx hpos hsign (hamount ▸ hreads))⟩

/-- The text of a finite number in the notation of the language spells it, up to the sign of
zero. -/
theorem spells_surfaceText {x : Float} (hx : x.isFinite = true) :
    ∃ numeral : Numeral, numeral.Spells (surfaceText x) ∧ Same numeral.value x := by
  unfold surfaceText
  split
  · next n hsome => exact spells_integerText hsome
  · next hnone =>
    obtain ⟨numeral, hspells, hvalue⟩ :=
      Layout.isSpelled_plain.spells_text hx (mantissa_pos_of_exactInteger? hx hnone)
    exact ⟨numeral, hspells, .inl hvalue⟩

/-! ### Numbers in documents -/

/-- What is unpacked as a zero is the exact integer zero. -/
theorem exactInteger?_of_unpack {x : Float} {sign : Float.Model.UnpackedFloat.Sign}
    (h : x.toModel.unpack = .zero sign) : exactInteger? x = some 0 := by
  have hx : x.isFinite = true := by
    change x.toModel.unpack.isFinite = true
    rw [h]
    rfl
  apply exactInteger?_of_zero hx
  by_contra hmantissa
  rw [unpack_eq_finite x hx (Nat.pos_of_ne_zero hmantissa)] at h
  cases h

/-- The two zeros are the same document. -/
theorem Same.ofNumber_eq {x y : Float} (h : Same x y) : Json.ofNumber x = Json.ofNumber y := by
  rcases h with rfl | ⟨first, second, hfirst, hsecond⟩
  · rfl
  · rw [Json.ofNumber, Json.ofNumber, exactInteger?_of_unpack hfirst,
      exactInteger?_of_unpack hsecond]

/-- The text of a number in a document spells a number with the same document. -/
theorem spells_ofNumber {x : Float} (hx : x.isFinite = true) :
    ∃ numeral : Numeral, numeral.Spells (Json.ofNumber x).text ∧
      Json.ofNumber numeral.value = Json.ofNumber x := by
  cases hexact : exactInteger? x with
  | some n =>
    obtain ⟨numeral, hspells, hsame⟩ := spells_integerText hexact
    refine ⟨numeral, ?_, hsame.ofNumber_eq⟩
    rw [Json.ofNumber, hexact]
    exact hspells
  | none =>
    obtain ⟨numeral, hspells, hvalue⟩ :=
      Layout.isSpelled_json.spells_text hx (mantissa_pos_of_exactInteger? hx hexact)
    refine ⟨numeral, ?_, by rw [hvalue]⟩
    rw [Json.ofNumber, hexact]
    dsimp only
    rw [if_pos hx, Json.text]
    exact hspells

end ShapeLisp.Number
