import ShapeLisp.Error
import ShapeLisp.Proofs.Text.Excerpt

/-!
# Cutting texts at character boundaries

Some byte offsets of a text lie inside a character, and there is no text from such an offset on.
The computation of an error with its excerpt is given here once more in terms of offsets, with steps
that can fail: going back from an offset to a boundary fails below zero, and taking the part between
two offsets fails unless both are boundaries, the first not after the second. None of the steps
fails, whatever the text and the offset, and the result is the error as it is reported.
-/

namespace ShapeLisp.Text

/-! ### Boundaries -/

/-- The last character boundary of a text that is not after a limit. -/
structure IsFloor (text : String) (limit place : Nat) : Prop where
  /-- It is a boundary. -/
  isValid : (String.Pos.Raw.mk place).IsValid text
  /-- It is not after the limit. -/
  le : place ≤ limit
  /-- No boundary between it and the limit. -/
  last : ∀ other, (String.Pos.Raw.mk other).IsValid text → other ≤ limit → other ≤ place

/-- The boundary that is reached from an offset by going back byte by byte; none when there is no
boundary down to zero. -/
def floorBoundary? (text : String) : Nat → Option Nat
  | 0 => if (String.Pos.Raw.mk 0).IsValid text then some 0 else none
  | offset + 1 =>
    if (String.Pos.Raw.mk (offset + 1)).IsValid text then some (offset + 1)
    else floorBoundary? text offset

/-- The bytes of a text between two offsets as a text; none unless both are boundaries and the first
is not after the second. -/
def slice? (text : String) (start stop : Nat) : Option String :=
  if h : (String.Pos.Raw.mk start).IsValid text ∧ (String.Pos.Raw.mk stop).IsValid text ∧
      start ≤ stop then
    some (String.extract (text.pos ⟨start⟩ h.1) (text.pos ⟨stop⟩ h.2.1))
  else none

/-- The bytes of a text are counted by its characters. -/
theorem utf8ByteSize_ofList (text : List Char) :
    (String.ofList text).utf8ByteSize = byteLength text := by
  induction text with
  | nil => rfl
  | cons c rest ih =>
    rw [← List.singleton_append, String.ofList_append, String.utf8ByteSize_append, ih,
      byteLength_append]
    simp [byteLength]

/-- The boundaries of a text are the lengths of its prefixes. -/
theorem isValid_iff {text : List Char} {place : Nat} :
    (String.Pos.Raw.mk place).IsValid (String.ofList text) ↔
      ∃ before after, text = before ++ after ∧ byteLength before = place := by
  rw [String.Pos.Raw.isValid_ofList]
  constructor
  · rintro ⟨i, hi⟩
    exact ⟨text.take i, text.drop i, (List.take_append_drop i text).symm,
      by rw [← utf8ByteSize_ofList, ← hi]⟩
  · rintro ⟨before, after, rfl, rfl⟩
    exact ⟨before.length, by rw [List.take_left, utf8ByteSize_ofList]⟩

/-- Going back from an offset reaches the last boundary that is not after it. -/
theorem IsFloor.floorBoundary?_eq {text : String} {limit place : Nat}
    (h : IsFloor text limit place) : floorBoundary? text limit = some place := by
  induction limit with
  | zero =>
    obtain rfl := Nat.le_zero.mp h.le
    rw [floorBoundary?, if_pos h.isValid]
  | succ limit ih =>
    rw [floorBoundary?]
    split
    · next hvalid => rw [Nat.le_antisymm (h.last _ hvalid (Nat.le_refl _)) h.le]
    · next hinvalid =>
      have hne : place ≠ limit + 1 := by
        rintro rfl
        exact hinvalid h.isValid
      exact ih ⟨h.isValid, Nat.le_of_lt_succ (Nat.lt_of_le_of_ne h.le hne),
        fun other hvalid hle => h.last other hvalid (Nat.le_succ_of_le hle)⟩

/-- A boundary is not after the end. -/
theorem le_of_isValid {text : String} {place : Nat}
    (h : (String.Pos.Raw.mk place).IsValid text) : place ≤ text.utf8ByteSize :=
  h.le_rawEndPos

/-- Nothing lies after the end. -/
theorem IsFloor.min_end {text : String} {limit place : Nat} (h : IsFloor text limit place) :
    IsFloor text (min limit text.utf8ByteSize) place where
  isValid := h.isValid
  le := Nat.le_min.mpr ⟨h.le, le_of_isValid h.isValid⟩
  last other hvalid hle := h.last other hvalid (Nat.le_trans hle (Nat.min_le_left _ _))

/-- The part of a text between the lengths of two prefixes. -/
theorem slice?_append (before shown after : List Char) :
    slice? (String.ofList (before ++ shown ++ after)) (byteLength before)
      (byteLength before + byteLength shown) = some (String.ofList shown) := by
  have hstart : (String.Pos.Raw.mk (byteLength before)).IsValid
      (String.ofList (before ++ shown ++ after)) :=
    isValid_iff.mpr ⟨before, shown ++ after, List.append_assoc .., rfl⟩
  have hstop : (String.Pos.Raw.mk (byteLength before + byteLength shown)).IsValid
      (String.ofList (before ++ shown ++ after)) :=
    isValid_iff.mpr ⟨before ++ shown, after, rfl, byteLength_append before shown⟩
  have hbefore : (String.ofList before).toByteArray.size = byteLength before :=
    utf8ByteSize_ofList before
  have hshown : (String.ofList shown).toByteArray.size = byteLength shown :=
    utf8ByteSize_ofList shown
  rw [slice?, dif_pos ⟨hstart, hstop, Nat.le_add_right ..⟩, Option.some.injEq,
    ← String.toByteArray_inj, String.toByteArray_extract]
  change (String.ofList (before ++ shown ++ after)).toByteArray.extract (byteLength before)
    (byteLength before + byteLength shown) = _
  rw [List.append_assoc, String.ofList_append, String.ofList_append, String.toByteArray_append,
    String.toByteArray_append, ← hbefore, ← hshown]
  exact (ByteArray.extract_append_size_add (i := 0)).trans (ByteArray.extract_append_eq_left rfl)

/-! ### Cutting at a boundary -/

/-- Cutting a text leaves nothing out. -/
theorem splitAtByte_append_eq (offset : Nat) (text : List Char) :
    (splitAtByte offset text).1 ++ (splitAtByte offset text).2 = text := by
  fun_induction splitAtByte offset text with
  | case1 => rfl
  | case2 offset c rest hfits taken left hsplit ih =>
    rw [hsplit] at ih
    rw [List.cons_append, ih]
  | case3 => rfl

/-- What is cut off fits before the offset. -/
theorem byteLength_splitAtByte_le (offset : Nat) (text : List Char) :
    byteLength (splitAtByte offset text).1 ≤ offset := by
  fun_induction splitAtByte offset text with
  | case1 => exact Nat.zero_le _
  | case2 offset c rest hfits taken left hsplit ih =>
    rw [hsplit] at ih
    dsimp only at ih ⊢
    rw [byteLength_cons]
    omega
  | case3 => exact Nat.zero_le _

/-- The next character does not fit before the offset. -/
theorem lt_of_splitAtByte {offset : Nat} {text rest : List Char} {c : Char}
    (h : (splitAtByte offset text).2 = c :: rest) :
    offset < byteLength (splitAtByte offset text).1 + c.utf8Size := by
  fun_induction splitAtByte offset text with
  | case1 => cases h
  | case2 offset first others hfits taken left hsplit ih =>
    rw [hsplit] at ih
    have hlt := ih h
    dsimp only at hlt ⊢
    rw [byteLength_cons]
    omega
  | case3 offset first others hfits =>
    obtain ⟨rfl, rfl⟩ := List.cons.inj h
    rw [byteLength_nil]
    omega

/-- A text that reaches the offset is cut less than four bytes before it. -/
theorem le_byteLength_splitAtByte {offset : Nat} {text : List Char}
    (h : offset ≤ byteLength text) : offset ≤ byteLength (splitAtByte offset text).1 + 3 := by
  cases hrest : (splitAtByte offset text).2 with
  | nil =>
    have htext := splitAtByte_append_eq offset text
    rw [hrest, List.append_nil] at htext
    rw [htext]
    exact Nat.le_add_right_of_le h
  | cons c rest =>
    have hlt := lt_of_splitAtByte hrest
    have hsize := Char.utf8Size_le_four c
    omega

/-- A text is cut at the last boundary that is not after the offset. -/
theorem isFloor_splitAtByte (offset : Nat) (text : List Char) :
    IsFloor (String.ofList text) offset (byteLength (splitAtByte offset text).1) where
  isValid := isValid_iff.mpr ⟨_, _, (splitAtByte_append_eq offset text).symm, rfl⟩
  le := byteLength_splitAtByte_le offset text
  last other hvalid hle := by
    obtain ⟨before, after, htext, rfl⟩ := isValid_iff.mp hvalid
    have hsplit := splitAtByte_append_eq offset text
    rw [htext] at hsplit ⊢
    rcases List.append_eq_append_iff.mp hsplit with ⟨more, hmore, hleft⟩ | ⟨more, hmore, -⟩
    · cases more with
      | nil =>
        rw [List.append_nil] at hmore
        exact Nat.le_of_eq (congrArg byteLength hmore)
      | cons c rest =>
        have hlt := lt_of_splitAtByte hleft
        rw [hmore, byteLength_append, byteLength_cons] at hle
        omega
    · rw [hmore, byteLength_append]
      exact Nat.le_add_right ..

/-- In the rest of a text the last boundary is counted from the start of the rest. -/
theorem IsFloor.shift {after : List Char} {limit place : Nat}
    (h : IsFloor (String.ofList after) limit place) (before : List Char) :
    IsFloor (String.ofList (before ++ after)) (byteLength before + limit)
      (byteLength before + place) where
  isValid := by
    obtain ⟨first, second, rfl, rfl⟩ := isValid_iff.mp h.isValid
    exact isValid_iff.mpr ⟨before ++ first, second, (List.append_assoc ..).symm,
      byteLength_append before first⟩
  le := Nat.add_le_add_left h.le _
  last other hvalid hle := by
    obtain ⟨first, second, htext, rfl⟩ := isValid_iff.mp hvalid
    rcases List.append_eq_append_iff.mp htext with ⟨more, rfl, hafter⟩ | ⟨more, rfl, -⟩
    · rw [byteLength_append] at hle ⊢
      exact Nat.add_le_add_left (h.last _ (isValid_iff.mpr ⟨more, second, hafter, rfl⟩)
        (Nat.le_of_add_le_add_left hle)) _
    · rw [byteLength_append, Nat.add_assoc]
      exact Nat.le_add_right ..

/-! ### Excerpts -/

namespace Excerpt

/-- The shown part of a text on one line, with marks where something is left out before it or after
it. Carriage returns are removed, and line feeds are written as an escape. -/
def framed (size start stop : Nat) (shown : String) : String :=
  (if 0 < start then "[...]" else "") ++
    String.ofList ((shown.toList.filter (· ≠ '\r')).flatMap fun c =>
      if c = '\n' then ['\\', 'n'] else [c]) ++
    (if stop < size then "[...]" else "")

/-- A text is put on one line by removing carriage returns and writing line feeds as an escape. -/
theorem onOneLine_eq (text : List Char) :
    onOneLine text =
      (text.filter (· ≠ '\r')).flatMap fun c => if c = '\n' then ['\\', 'n'] else [c] := by
  induction text with
  | nil => rfl
  | cons c rest ih =>
    rw [onOneLine, List.flatMap_cons, ← onOneLine, ih, List.filter_cons]
    by_cases hreturn : c = '\r'
    · subst hreturn
      rfl
    · have hkept : decide (c ≠ '\r') = true := decide_eq_true hreturn
      rw [if_neg hreturn, if_pos hkept, List.flatMap_cons]

variable (text : List Char) (offset : Nat)

/-- The place of an offset: the last boundary that is not after it. -/
def place : Nat :=
  byteLength (splitAtByte offset text).1

/-- Where an excerpt starts. -/
def start : Nat :=
  byteLength (splitAtByte (place text offset - lead) text).1

/-- What an excerpt shows of a text. -/
def shown : List Char :=
  (splitAtByte width (splitAtByte (place text offset - lead) text).2).1

/-- Where an excerpt stops. -/
def stop : Nat :=
  start text offset + byteLength (shown text offset)

/-- A text is what is left out before an excerpt, what is shown and what is left out after it. -/
theorem exists_skipped_cut : ∃ skipped cut, text = skipped ++ shown text offset ++ cut ∧
    byteLength skipped = start text offset ∧
    around text offset = ⟨(if skipped.isEmpty then [] else ellipsis) ++
      onOneLine (shown text offset) ++ (if cut.isEmpty then [] else ellipsis),
      (splitAtByte offset text).2.head?⟩ := by
  refine ⟨(splitAtByte (place text offset - lead) text).1,
    (splitAtByte width (splitAtByte (place text offset - lead) text).2).2, ?_, rfl, rfl⟩
  rw [List.append_assoc, shown, splitAtByte_append_eq, splitAtByte_append_eq]

/-- The place is the last boundary that is not after the offset and not after the end. -/
theorem isFloor_place : IsFloor (String.ofList text)
    (min offset (String.ofList text).utf8ByteSize) (place text offset) :=
  (isFloor_splitAtByte offset text).min_end

/-- The excerpt starts at the last boundary that leaves the lead before the place. -/
theorem isFloor_start : IsFloor (String.ofList text) (place text offset - lead)
    (start text offset) :=
  isFloor_splitAtByte (place text offset - lead) text

/-- The excerpt stops at the last boundary within its width. -/
theorem isFloor_stop : IsFloor (String.ofList text)
    (min (start text offset + width) (String.ofList text).utf8ByteSize) (stop text offset) := by
  have hrest := isFloor_splitAtByte width (splitAtByte (place text offset - lead) text).2
  have hshift := hrest.shift (splitAtByte (place text offset - lead) text).1
  rw [splitAtByte_append_eq] at hshift
  exact hshift.min_end

/-- What is found at a place is the character from there to the next boundary. -/
theorem exists_found : ∃ before after, text = before ++ after ∧
    byteLength before = place text offset ∧ (around text offset).found = after.head? :=
  ⟨_, _, (splitAtByte_append_eq offset text).symm, rfl, rfl⟩

/-- Nothing is found exactly at the end of a text. -/
theorem found_eq_none_iff : (around text offset).found = none ↔
    place text offset = (String.ofList text).utf8ByteSize := by
  obtain ⟨before, after, htext, hplace, hfound⟩ := exists_found text offset
  have hsize : byteLength text = place text offset + byteLength after := by
    rw [← hplace, ← byteLength_append, ← htext]
  rw [utf8ByteSize_ofList, hfound, hsize, List.head?_eq_none_iff]
  cases after with
  | nil => simp [byteLength_nil]
  | cons c rest =>
    have hpos := byteLength_pos_iff.mpr (rfl : (c :: rest).isEmpty = false)
    simp only [List.cons_ne_nil, false_iff]
    omega

/-- Behind a character that is found comes the next boundary. -/
theorem isValid_place_add {c : Char} (h : (around text offset).found = some c) :
    (String.Pos.Raw.mk (place text offset + c.utf8Size)).IsValid (String.ofList text) := by
  obtain ⟨before, after, htext, hplace, hfound⟩ := exists_found text offset
  obtain ⟨rest, rfl⟩ := List.head?_eq_some_iff.mp (hfound.symm.trans h)
  refine isValid_iff.mpr ⟨before ++ [c], rest, ?_, ?_⟩
  · rw [htext, List.append_assoc, List.singleton_append]
  · rw [byteLength_append, hplace, byteLength_cons, byteLength_nil, Nat.add_zero]

/-- The lead before a place is at most three bytes longer for the rest of a character. -/
theorem place_le : place text offset ≤ start text offset + 23 := by
  have hplace : place text offset ≤ byteLength text := by
    rw [← utf8ByteSize_ofList]
    exact le_of_isValid (isFloor_place text offset).isValid
  have hstart := le_byteLength_splitAtByte (Nat.sub_le_of_le_add
    (Nat.le_add_right_of_le hplace) : place text offset - lead ≤ byteLength text)
  change place text offset - lead ≤ start text offset + 3 at hstart
  rw [lead] at hstart
  omega

/-- A boundary that is near enough to the start is shown. -/
theorem le_stop {other : Nat} (hvalid : (String.Pos.Raw.mk other).IsValid (String.ofList text))
    (h : other ≤ start text offset + width) : other ≤ stop text offset :=
  (isFloor_stop text offset).last other hvalid (Nat.le_min.mpr ⟨h, le_of_isValid hvalid⟩)

/-- The excerpt is the shown part between the marks. -/
theorem line_around_eq : String.ofList (around text offset).line =
    framed (String.ofList text).utf8ByteSize (start text offset) (stop text offset)
      (String.ofList (shown text offset)) := by
  obtain ⟨skipped, cut, htext, hstart, haround⟩ := exists_skipped_cut text offset
  have hsize := congrArg byteLength htext
  rw [byteLength_append, byteLength_append, hstart, ← stop] at hsize
  have hlead : 0 < start text offset ↔ skipped.isEmpty = false := by
    rw [← hstart, byteLength_pos_iff]
  have hrest : stop text offset < (String.ofList text).utf8ByteSize ↔ cut.isEmpty = false := by
    rw [utf8ByteSize_ofList, hsize, ← byteLength_pos_iff, Nat.lt_add_right_iff_pos]
  rw [haround, framed, String.toList_ofList, ← onOneLine_eq]
  simp only [hlead, hrest, String.ofList_append]
  cases skipped.isEmpty <;> cases cut.isEmpty <;> rfl

/-- The part of a text that an excerpt shows. -/
theorem slice?_shown : slice? (String.ofList text) (start text offset) (stop text offset) =
    some (String.ofList (shown text offset)) := by
  obtain ⟨skipped, cut, htext, hstart, -⟩ := exists_skipped_cut text offset
  have hslice := slice?_append skipped (shown text offset) cut
  rwa [← htext, hstart] at hslice

end Excerpt

end ShapeLisp.Text

namespace ShapeLisp.ParseError

open ShapeLisp.Text

/-- An error at a byte offset of a text, by steps that can fail. -/
def checkedContext? (kind : ParseErrorKind) (message : String) (text : String) (offset : Nat) :
    Option ParseError := do
  let size := text.utf8ByteSize
  let place ← floorBoundary? text (min offset size)
  let rest ← slice? text place size
  let start ← floorBoundary? text (place - Excerpt.lead)
  let stop ← floorBoundary? text (min (start + Excerpt.width) size)
  let shown ← slice? text start stop
  return ⟨kind, message, some (Excerpt.framed size start stop shown), rest.toList.head?⟩

/-- An excerpt is cut safely around the place of an error. For every text and every offset, also one
inside a character or past the end, no step of the computation fails. The place is the last boundary
that is neither after the offset nor after the end. What is found is the character from there on,
nothing only at the end. The excerpt is the text between two boundaries around the place, on one
line and with marks where something is left out; it starts at most 23 bytes before the place, shows
at most 100 bytes and shows all of the character that is found. -/
theorem excerpt_cut_safely (kind : ParseErrorKind) (message text : String) (offset : Nat) :
    ∃ place start stop shown,
      let error := withContext kind message text.toList offset
      checkedContext? kind message text offset = some error ∧
      IsFloor text (min offset text.utf8ByteSize) place ∧
      (∃ before after, text.toList = before ++ after ∧ byteLength before = place ∧
        error.found = after.head?) ∧
      (error.found = none ↔ place = text.utf8ByteSize) ∧
      slice? text start stop = some shown ∧
      error.context = some (Excerpt.framed text.utf8ByteSize start stop shown) ∧
      start ≤ place ∧ place ≤ stop ∧ place - start ≤ 23 ∧ stop - start ≤ 100 ∧
      ∀ c, error.found = some c → place + c.utf8Size ≤ stop := by
  obtain ⟨text, rfl⟩ : ∃ chars, text = String.ofList chars := ⟨text.toList, by simp⟩
  rw [String.toList_ofList]
  have hplace := Excerpt.isFloor_place text offset
  have hstart := Excerpt.isFloor_start text offset
  have hstop := Excerpt.isFloor_stop text offset
  have hshown := Excerpt.slice?_shown text offset
  have hcontext := congrArg some (Excerpt.line_around_eq text offset)
  have hnear := Excerpt.place_le text offset
  refine ⟨Excerpt.place text offset, Excerpt.start text offset, Excerpt.stop text offset,
    String.ofList (Excerpt.shown text offset), ?steps, hplace, Excerpt.exists_found text offset,
    Excerpt.found_eq_none_iff text offset, hshown, hcontext,
    Nat.le_trans hstart.le (Nat.sub_le _ _), ?stops, Nat.sub_le_iff_le_add'.mpr hnear, ?width,
    ?found⟩
  case steps =>
    obtain ⟨before, after, htext, hbefore, hfound⟩ := Excerpt.exists_found text offset
    have hrest := slice?_append before after []
    rw [List.append_nil, ← htext, ← byteLength_append, ← htext, hbefore,
      ← utf8ByteSize_ofList] at hrest
    simp only [checkedContext?, hplace.floorBoundary?_eq, hrest, hstart.floorBoundary?_eq,
      hstop.floorBoundary?_eq, hshown, Option.bind_eq_bind, Option.bind_some, String.toList_ofList,
      withContext, hfound, ← hcontext]
    rfl
  case stops =>
    exact Excerpt.le_stop text offset hplace.isValid
      (Nat.le_trans hnear (Nat.add_le_add_left (by decide) _))
  case width => exact Nat.sub_le_iff_le_add'.mpr (Nat.le_trans hstop.le (Nat.min_le_left _ _))
  case found =>
    intro c hfound
    -- at most 23 bytes before the place and at most four of the character
    have hsize := Char.utf8Size_le_four c
    refine Excerpt.le_stop text offset (Excerpt.isValid_place_add text offset hfound) ?_
    rw [Excerpt.width]
    omega

/-- An offset inside a character stands for the character. -/
example : (Excerpt.around ['a', 'é', 'b'] 2).found = some 'é' := by decide

end ShapeLisp.ParseError
