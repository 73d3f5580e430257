import ShapeLisp.Text.Excerpt

/-!
# Places in a text

A place is given by the text before it and the text from it on. Its position is the number of bytes
before it, and cutting the text at this position gives the two parts back, so the position is never
inside a character.
-/

namespace ShapeLisp.Text

/-- The empty text has no bytes. -/
theorem byteLength_nil : byteLength [] = 0 := rfl

/-- The bytes of a text are those of its first character and those of the others. -/
theorem byteLength_cons (c : Char) (rest : List Char) :
    byteLength (c :: rest) = c.utf8Size + byteLength rest := rfl

/-- A text has bytes unless it is empty. -/
theorem byteLength_pos_iff {text : List Char} : 0 < byteLength text ↔ text.isEmpty = false := by
  cases text with
  | nil => simp [byteLength_nil]
  | cons c rest => simp [byteLength_cons, Nat.add_pos_left (Char.utf8Size_pos c)]

/-- The bytes of a text are those of its parts. -/
theorem byteLength_append (before after : List Char) :
    byteLength (before ++ after) = byteLength before + byteLength after := by
  induction before with
  | nil => simp [byteLength]
  | cons c rest ih =>
    change c.utf8Size + byteLength (rest ++ after) = c.utf8Size + byteLength rest + byteLength after
    rw [ih, Nat.add_assoc]

/-- Cutting at the position of a place gives the text before it and the text from it on. -/
theorem splitAtByte_append (before place : List Char) :
    splitAtByte (byteLength before) (before ++ place) = (before, place) := by
  induction before with
  | nil =>
    cases place with
    | nil => rfl
    | cons c rest =>
      have hsize := Char.utf8Size_pos c
      rw [List.nil_append, splitAtByte, if_neg]
      change ¬ c.utf8Size ≤ 0
      omega
  | cons c rest ih =>
    have hlength : byteLength (c :: rest) = c.utf8Size + byteLength rest := rfl
    rw [List.cons_append, splitAtByte, hlength, if_pos (Nat.le_add_right ..),
      Nat.add_sub_cancel_left, ih]

/-- The character found at a place is the first one from there on. -/
theorem found_around (before place : List Char) :
    (Excerpt.around (before ++ place) (byteLength before)).found = place.head? := by
  simp only [Excerpt.around, splitAtByte_append]

end ShapeLisp.Text
