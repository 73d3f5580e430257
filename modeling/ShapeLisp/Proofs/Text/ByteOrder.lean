import Mathlib.Data.String.Basic

/-!
# The order of texts

Texts are ordered by their characters. Their UTF-8 forms, compared byte by byte, are in the same
order: a longer form begins with a greater byte, and forms of one length have the digits of the code
point to base 64, the greatest first.
-/

namespace ShapeLisp.Text

/-- A digit with the mark of its place fits in a byte. -/
theorem markedDigit_mod (n : ℕ) {base mark : ℕ} (hbase : 0 < base) (hmark : base + mark ≤ 256) :
    (n % base + mark) % 256 = n % base + mark :=
  Nat.mod_eq_of_lt (Nat.lt_of_lt_of_le (Nat.add_lt_add_right (Nat.mod_lt n hbase) mark) hmark)

/-- The UTF-8 form of a lesser character comes first, whatever follows. -/
theorem utf8EncodeChar_lt {c d : Char} (h : c < d) (xs ys : List UInt8) :
    String.utf8EncodeChar c ++ xs < String.utf8EncodeChar d ++ ys := by
  have hlt : c.val.toNat < d.val.toNat := h
  have hmax : d.val.toNat < 1114112 := by
    rcases d.valid with hlow | hhigh
    · exact Nat.lt_trans hlow (by decide)
    · exact hhigh.2
  unfold String.utf8EncodeChar
  dsimp only
  generalize c.val.toNat = m at hlt
  generalize d.val.toNat = n at hlt hmax
  -- Of two numbers the digits to base 64 are compared from the last place up.
  have hlast : m / 64 < n / 64 ∨ m / 64 = n / 64 ∧ m % 64 < n % 64 := by omega
  have hthird : m / 64 < n / 64 →
      m / 4096 < n / 4096 ∨ m / 4096 = n / 4096 ∧ m / 64 % 64 < n / 64 % 64 := by omega
  have hsecond : m / 4096 < n / 4096 →
      m / 262144 < n / 262144 ∨ m / 262144 = n / 262144 ∧ m / 4096 % 64 < n / 4096 % 64 := by
    omega
  have hfirst : m / 262144 % 8 = m / 262144 := Nat.mod_eq_of_lt (by omega)
  have hfirst' : n / 262144 % 8 = n / 262144 := Nat.mod_eq_of_lt (by omega)
  -- Each of the two forms has one to four bytes.
  repeat' split
  all_goals
    simp only [List.cons_append, List.nil_append, List.cons_lt_cons_iff, UInt8.lt_iff_toNat_lt,
      ← UInt8.toNat_inj, UInt8.toNat_ofNat', Nat.reducePow,
      markedDigit_mod _ (show 0 < 64 by decide) (show 64 + 128 ≤ 256 by decide),
      markedDigit_mod _ (show 0 < 32 by decide) (show 32 + 192 ≤ 256 by decide),
      markedDigit_mod _ (show 0 < 16 by decide) (show 16 + 224 ≤ 256 by decide),
      markedDigit_mod _ (show 0 < 8 by decide) (show 8 + 240 ≤ 256 by decide)]
    omega

/-- The UTF-8 form of a lesser text comes first. -/
theorem flatMap_utf8EncodeChar_lt {first second : List Char} (h : first < second) :
    first.flatMap String.utf8EncodeChar < second.flatMap String.utf8EncodeChar := by
  induction h with
  | @nil c rest =>
    obtain ⟨byte, bytes, hbytes⟩ :=
      List.exists_cons_of_ne_nil (String.utf8EncodeChar_ne_nil (c := c))
    rw [List.flatMap_cons, hbytes]
    exact List.Lex.nil
  | rel hlt => exact utf8EncodeChar_lt hlt _ _
  | cons _ ih => exact List.append_left_lt ih

/-- The bytes of the UTF-8 form of a text. -/
def bytes (text : String) : List UInt8 :=
  text.toUTF8.data.toList

/-- The bytes of a text are those of its characters. -/
theorem bytes_eq (text : String) : bytes text = text.toList.flatMap String.utf8EncodeChar := by
  rw [bytes, String.toUTF8, ← String.utf8Encode_toList, List.utf8Encode, List.data_toByteArray]

/-- The order of texts is the order of their bytes. -/
theorem bytes_lt {first second : String} (h : first < second) : bytes first < bytes second := by
  rw [bytes_eq, bytes_eq]
  exact flatMap_utf8EncodeChar_lt (String.lt_iff_toList_lt.mp h)

end ShapeLisp.Text
