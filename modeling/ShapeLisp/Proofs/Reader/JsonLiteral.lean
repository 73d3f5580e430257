import ShapeLisp.Proofs.Keyed
import ShapeLisp.Proofs.Reader.Token

/-!
# Written JSON literals read back

The compact text of an array or an object is read back as the very same document, provided that its
numbers are those that numbers of the language become, that its texts need no escape beyond those
of a string, and that the members of its objects are in order. A document with more containers
inside each other than there is room for is refused as nested too deeply.
-/

namespace ShapeLisp

namespace Json

mutual

/-- How many containers of a document stand inside each other. -/
def nesting : Json → Nat
  | .arr items => nestingItems items + 1
  | .obj members => nestingMembers members + 1
  | _ => 0

/-- The greatest nesting of the items of an array. -/
def nestingItems : List Json → Nat
  | [] => 0
  | item :: rest => max (nesting item) (nestingItems rest)

/-- The greatest nesting of the members of an object. -/
def nestingMembers : List (String × Json) → Nat
  | [] => 0
  | (_, item) :: rest => max (nesting item) (nestingMembers rest)

end

/-- A text without characters below U+0020 other than line feed, carriage return and tab. -/
def IsPlainText (text : String) : Prop :=
  ∀ c ∈ text.toList, 0x20 ≤ c.toNat ∨ c = '\n' ∨ c = '\r' ∨ c = '\t'

mutual

/-- A document that can be written inside a program: its numbers come from numbers of the language,
its texts are plain, and the members of its objects are in the order of their keys. -/
def Readable : Json → Prop
  | .null => True
  | .bool _ => True
  | .int n => ∃ x, ofNumber x = .int n
  | .float y => ∃ x, ofNumber x = .float y
  | .str text => IsPlainText text
  | .arr items => ReadableItems items
  | .obj members => Keyed.Sorted members ∧ ReadableMembers members

/-- Every item of an array can be written. -/
def ReadableItems : List Json → Prop
  | [] => True
  | item :: rest => Readable item ∧ ReadableItems rest

/-- Every member of an object can be written. -/
def ReadableMembers : List (String × Json) → Prop
  | [] => True
  | (key, item) :: rest => IsPlainText key ∧ Readable item ∧ ReadableMembers rest

end

mutual

/-- A document that reading can give: its numbers come from numbers of the language, and the members
of its objects are in the order of their keys. -/
def Produced : Json → Prop
  | .null => True
  | .bool _ => True
  | .int n => ∃ x, ofNumber x = .int n
  | .float y => ∃ x, ofNumber x = .float y
  | .str _ => True
  | .arr items => ProducedItems items
  | .obj members => Keyed.Sorted members ∧ ProducedMembers members

/-- Reading can give every item of an array. -/
def ProducedItems : List Json → Prop
  | [] => True
  | item :: rest => Produced item ∧ ProducedItems rest

/-- Reading can give every member of an object. -/
def ProducedMembers : List (String × Json) → Prop
  | [] => True
  | (_, item) :: rest => Produced item ∧ ProducedMembers rest

end

mutual

/-- The texts in a document, the keys of its objects among them. -/
def texts : Json → List String
  | .str text => [text]
  | .arr items => textsItems items
  | .obj members => textsMembers members
  | _ => []

/-- The texts in the items of an array. -/
def textsItems : List Json → List String
  | [] => []
  | item :: rest => texts item ++ textsItems rest

/-- The keys of the members of an object and the texts in them. -/
def textsMembers : List (String × Json) → List String
  | [] => []
  | (key, item) :: rest => key :: texts item ++ textsMembers rest

end

mutual

/-- What can be written is what reading can give with plain texts. -/
theorem readable_iff : ∀ (item : Json),
    item.Readable ↔ item.Produced ∧ ∀ text ∈ item.texts, IsPlainText text
  | .null | .bool _ | .int _ | .float _ => by simp [Readable, Produced, texts]
  | .str text => by simp [Readable, Produced, texts]
  | .arr items => by
    rw [Readable, Produced, texts]
    exact readableItems_iff items
  | .obj members => by
    rw [Readable, Produced, texts, readableMembers_iff members, and_assoc]

/-- Items that can be written are those that reading can give with plain texts. -/
theorem readableItems_iff : ∀ (items : List Json),
    ReadableItems items ↔ ProducedItems items ∧ ∀ text ∈ textsItems items, IsPlainText text
  | [] => by simp [ReadableItems, ProducedItems, textsItems]
  | item :: rest => by
    rw [ReadableItems, ProducedItems, textsItems, readable_iff item, readableItems_iff rest,
      List.forall_mem_append, and_and_and_comm]

/-- Members that can be written are those that reading can give with plain keys and texts. -/
theorem readableMembers_iff : ∀ (members : List (String × Json)),
    ReadableMembers members ↔
      ProducedMembers members ∧ ∀ text ∈ textsMembers members, IsPlainText text
  | [] => by simp [ReadableMembers, ProducedMembers, textsMembers]
  | (key, item) :: rest => by
    rw [ReadableMembers, ProducedMembers, textsMembers, readable_iff item,
      readableMembers_iff rest, List.forall_mem_append, List.forall_mem_cons]
    tauto

end

/-- A document that is an object or an array. -/
def IsContainer : Json → Prop
  | .arr _ => True
  | .obj _ => True
  | _ => False

/-- A plain character is written as in a string of the language. -/
theorem charText_eq_surfaceChar {c : Char}
    (h : 0x20 ≤ c.toNat ∨ c = '\n' ∨ c = '\r' ∨ c = '\t') :
    charText c = Text.Quoted.surfaceChar c := by
  rcases h with h | rfl | rfl | rfl
  · have hbackspace : c ≠ '\x08' := by
      rintro rfl
      exact absurd h (by decide)
    have hfeed : c ≠ '\x0c' := by
      rintro rfl
      exact absurd h (by decide)
    have hline : c ≠ '\n' := by
      rintro rfl
      exact absurd h (by decide)
    have hreturn : c ≠ '\r' := by
      rintro rfl
      exact absurd h (by decide)
    have htab : c ≠ '\t' := by
      rintro rfl
      exact absurd h (by decide)
    simp only [charText, Text.Quoted.surfaceChar, if_neg hbackspace, if_neg hfeed, if_neg hline,
      if_neg hreturn, if_neg htab, if_neg (Nat.not_lt.mpr h)]
  · rfl
  · rfl
  · rfl

/-- A plain text is written as a string of the language. -/
theorem stringText_eq_surface {text : String} (h : IsPlainText text) :
    stringText text = Text.Quoted.surface text.toList := by
  have hchars : text.toList.flatMap charText =
      text.toList.flatMap Text.Quoted.surfaceChar := by
    rw [List.flatMap, List.flatMap,
      List.map_congr_left fun c hc => charText_eq_surfaceChar (h c hc)]
  rw [stringText, Text.Quoted.surface, hchars]

/-- Numbers in documents come from finite numbers. -/
theorem isFinite_of_ofNumber {x : Float} (h : ofNumber x ≠ .null) : x.isFinite = true := by
  by_contra hx
  rw [Bool.not_eq_true] at hx
  apply h
  rw [ofNumber, Number.exactInteger?, Number.isIntegral, hx, Bool.false_and, Bool.false_and,
    if_neg Bool.false_ne_true]
  dsimp only
  rw [if_neg Bool.false_ne_true]

/-- A floating point number in a document is finite. -/
theorem isFinite_of_float {x y : Float} (h : ofNumber x = .float y) : y.isFinite = true := by
  have hx : x.isFinite = true := isFinite_of_ofNumber (by rw [h]; exact Json.noConfusion)
  rw [ofNumber] at h
  split at h
  · cases h
  · rw [if_pos hx] at h
    exact float.inj h ▸ hx

mutual

/-- A document that can be written equals itself. -/
theorem beq_self : ∀ (item : Json), item.Readable → beq item item = true
  | .null, _ => rfl
  | .bool value, _ => by rw [beq, beq_self_eq_true]
  | .int n, _ => by rw [beq, beq_self_eq_true]
  | .float y, h => by
    obtain ⟨x, hx⟩ := h
    exact (Number.Same.refl y).beq (isFinite_of_float hx)
  | .str text, _ => by rw [beq, beq_self_eq_true]
  | .arr items, h => beqItems_self items h
  | .obj members, h => beqMembers_self members h.2

/-- Items that can be written equal themselves. -/
theorem beqItems_self : ∀ (items : List Json), ReadableItems items → beqItems items items = true
  | [], _ => rfl
  | item :: more, h => by
    rw [beqItems, beq_self item h.1, beqItems_self more h.2, Bool.and_self]

/-- Members that can be written equal themselves. -/
theorem beqMembers_self : ∀ (members : List (String × Json)), ReadableMembers members →
    beqMembers members members = true
  | [], _ => rfl
  | (key, item) :: more, h => by
    rw [beqMembers, beq_self_eq_true, beq_self item h.2.1, beqMembers_self more h.2.2,
      Bool.and_self, Bool.and_self]

end

end Json

namespace Reader

open ShapeLisp.Text ShapeLisp.Number

/-! ### First characters -/

/-- The text goes on with a comma, a closing bracket or a closing brace. -/
def EndsDocument (rest : List Char) : Prop :=
  ∃ c tail, rest = c :: tail ∧ (c = ',' ∨ c = ']' ∨ c = '\x7d')

/-- A character that begins a document or a key. -/
structure IsFirst (c : Char) : Prop where
  /-- It is not white space. -/
  whitespace : isWhitespace c = false
  /-- It is no blank. -/
  blank : isBlank c = false
  /-- It closes no array. -/
  bracket : c ≠ ']'
  /-- It closes no object. -/
  brace : c ≠ '\x7d'

/-- A character that may stand in a symbol begins a document. -/
theorem IsFirst.of_isSymbolChar {c : Char} (h : isSymbolChar c = true) : IsFirst c where
  whitespace := by
    apply Bool.eq_false_iff.mpr
    intro hspace
    exact ne_of_isSymbolChar h (isSymbolChar_of_isWhitespace hspace) rfl
  blank := by
    apply Bool.eq_false_iff.mpr
    intro hblank
    simp only [isBlank, Bool.or_eq_true, decide_eq_true_eq] at hblank
    rcases hblank with ((hblank | hblank) | hblank) | hblank
    all_goals exact ne_of_isSymbolChar h (by decide +kernel) hblank
  bracket := ne_of_isSymbolChar h (by decide +kernel)
  brace := ne_of_isSymbolChar h (by decide +kernel)

/-- A quote and the opening marks of containers begin a document. -/
theorem isFirst_mark {c : Char} (h : c = '"' ∨ c = '[' ∨ c = '\x7b') : IsFirst c := by
  rcases h with rfl | rfl | rfl
  all_goals exact ⟨by decide, by decide, by decide, by decide⟩

/-- Blanks and white space are not dropped before the first character of a document. -/
theorem IsFirst.drop {c : Char} (h : IsFirst c) (tail : List Char) :
    (c :: tail).dropWhile isBlank = c :: tail ∧ trimStart (c :: tail) = c :: tail :=
  ⟨List.dropWhile_cons_of_neg (by rw [h.blank]; exact Bool.false_ne_true),
    List.dropWhile_cons_of_neg (by rw [h.whitespace]; exact Bool.false_ne_true)⟩

/-- A container begins with its opening mark. -/
theorem container_declines {c : Char} (hbrace : c ≠ '\x7b') (hbracket : c ≠ '[') (room : Nat)
    (tail : List Char) : Declines (container room) (c :: tail) := by
  refine .of_unexpected (c :: tail) ?_
  cases room with
  | zero =>
    rw [container]
    · exact fun rest h => hbrace (List.cons.inj h).1
    · exact fun rest h => hbracket (List.cons.inj h).1
  | succ room =>
    rw [container]
    · exact fun rest h => hbrace (List.cons.inj h).1
    · exact fun rest h => hbracket (List.cons.inj h).1

/-! ### Documents without parts -/

/-- A written number is read as its document. -/
theorem document_number {x : Float} (hx : x.isFinite = true) {rest : List Char}
    (hrest : EndsDocument rest) (room : Nat) :
    document (container room) ((Json.ofNumber x).text ++ rest) = .ok (Json.ofNumber x, rest) := by
  obtain ⟨found, hspells, hvalue⟩ := spells_ofNumber hx
  obtain ⟨d, left, rfl, hd⟩ := hrest
  have hends : EndsNumeral (d :: left) := by
    rcases hd with rfl | rfl | rfl <;> exact .cons (by decide) (by decide) left
  have hend : documentEnd (d :: left) = .ok () := by
    rcases hd with rfl | rfl | rfl <;> rfl
  have hnumber : numberDocument ((Json.ofNumber x).text ++ d :: left) =
      .ok (Json.ofNumber x, d :: left) := by
    simp only [numberDocument, numeral_append hspells hends, bind, Except.bind, hend, hvalue]
    rfl
  have htext : IsNumberText (Json.ofNumber x).text := ⟨found, hspells⟩
  cases hfirst : (Json.ofNumber x).text with
  | nil => exact absurd hfirst htext.ne_nil
  | cons c tail =>
    rw [hfirst] at htext hnumber
    have hc : isSymbolChar c = true := htext.isSymbolChar c List.mem_cons_self
    have hbrace : c ≠ '\x7b' := ne_of_isSymbolChar hc (by decide +kernel)
    have hbracket : c ≠ '[' := ne_of_isSymbolChar hc (by decide +kernel)
    have hquote : c ≠ '"' := ne_of_isSymbolChar hc (by decide +kernel)
    rw [List.cons_append] at hnumber ⊢
    rw [document, ((IsFirst.of_isSymbolChar hc).drop _).1,
      either_of_declines (container_declines hbrace hbracket room _),
      either_of_declines ((stringText_declines hquote).mapResult _)]
    exact either_of_ok hnumber

/-- A written text is read as its document. -/
theorem document_text {text : String} (htext : Json.IsPlainText text) (rest : List Char)
    (room : Nat) :
    document (container room) (Json.stringText text ++ rest) = .ok (.str text, rest) := by
  have hread := stringText_surface text rest
  rw [← Json.stringText_eq_surface htext, Json.stringText, List.cons_append, List.cons_append]
    at hread
  rw [Json.stringText, List.cons_append, List.cons_append, document,
    ((isFirst_mark (.inl rfl)).drop _).1,
    either_of_declines (container_declines (by decide) (by decide) room _)]
  apply either_of_ok
  rw [hread, mapResult]

/-- A letter is no digit. -/
theorem isAsciiDigit_of_isAsciiLetter {c : Char} (h : isAsciiLetter c = true) :
    isAsciiDigit c = false := by
  apply Bool.eq_false_iff.mpr
  intro hdigit
  simp only [isAsciiLetter, isAsciiDigit, Bool.or_eq_true, Bool.and_eq_true,
    decide_eq_true_eq] at h hdigit
  rcases h with h | h
  · exact absurd (le_trans h.1 hdigit.2) (by decide)
  · exact absurd (le_trans h.1 hdigit.2) (by decide)

/-- A word that begins with a letter is read as its document. -/
theorem document_word {word : List Char} (hword : ∀ c ∈ word, isWordChar c = true)
    (hletter : ∃ c tail, word = c :: tail ∧ isAsciiLetter c = true) {rest : List Char}
    (hrest : EndsDocument rest) (room : Nat) :
    document (container room) (word ++ rest) = .ok (wordDocument word, rest) := by
  obtain ⟨c, tail, rfl, hc⟩ := hletter
  obtain ⟨d, left, rfl, hd⟩ := hrest
  have hspan : (c :: tail ++ d :: left).span isWordChar = (c :: tail, d :: left) := by
    apply span_append hword
    intro e more h
    obtain ⟨rfl, -⟩ := List.cons.inj h
    rcases hd with rfl | rfl | rfl <;> decide +kernel
  have hne : ∀ e, isAsciiLetter e = false → c ≠ e := by
    rintro e he rfl
    rw [he] at hc
    cases hc
  have hnumeral : Declines numeral (c :: tail ++ d :: left) := by
    rcases numeral_cases (c :: tail ++ d :: left) with hdeclines | ⟨⟨x, more⟩, hfound⟩
    · exact hdeclines
    · obtain ⟨spelling, hspelling, htext⟩ := numeral_sound hfound
      cases spelling with
      | nil => exact absurd rfl hspelling.ne_nil
      | cons e others =>
        obtain ⟨rfl, -⟩ := List.cons.inj htext
        rcases hspelling.first with hdigit | hplus | hminus
        · exact absurd hdigit (by rw [isAsciiDigit_of_isAsciiLetter hc]; exact Bool.false_ne_true)
        · exact absurd hplus (hne '+' (by decide))
        · exact absurd hminus (hne '-' (by decide))
  have hnumber : Declines numberDocument (c :: tail ++ d :: left) := by
    obtain ⟨stop, hstop, hopen⟩ := hnumeral
    exact ⟨stop, by rw [numberDocument, hstop]; rfl, hopen⟩
  rw [List.cons_append] at hspan hnumber ⊢
  rw [document, ((IsFirst.of_isSymbolChar (isSymbolChar_of_isAsciiLetter hc)).drop _).1,
    either_of_declines (container_declines (hne _ (by decide)) (hne _ (by decide)) room _),
    either_of_declines ((stringText_declines (hne _ (by decide))).mapResult _),
    either_of_declines hnumber, bareWord, hspan]
  rfl

/-! ### Containers -/

/-- The text of a number begins like a document. -/
theorem number_first {x : Float} (h : Json.ofNumber x ≠ .null) :
    ∃ c tail, (Json.ofNumber x).text = c :: tail ∧ IsFirst c := by
  obtain ⟨found, hspells, -⟩ := spells_ofNumber (Json.isFinite_of_ofNumber h)
  have htext : IsNumberText (Json.ofNumber x).text := ⟨found, hspells⟩
  cases hfirst : (Json.ofNumber x).text with
  | nil => exact absurd hfirst htext.ne_nil
  | cons c tail =>
    rw [hfirst] at htext
    exact ⟨c, tail, rfl, .of_isSymbolChar (htext.isSymbolChar c List.mem_cons_self)⟩

/-- The text of a document begins like one. -/
theorem text_first {item : Json} (h : item.Produced) :
    ∃ c tail, item.text = c :: tail ∧ IsFirst c := by
  cases item with
  | null => exact ⟨_, _, rfl, .of_isSymbolChar (by decide +kernel)⟩
  | bool value =>
    cases value with
    | true => exact ⟨_, _, rfl, .of_isSymbolChar (by decide +kernel)⟩
    | false => exact ⟨_, _, rfl, .of_isSymbolChar (by decide +kernel)⟩
  | int n =>
    obtain ⟨x, hx⟩ := h
    exact hx ▸ number_first (by rw [hx]; exact Json.noConfusion)
  | float y =>
    obtain ⟨x, hx⟩ := h
    exact hx ▸ number_first (by rw [hx]; exact Json.noConfusion)
  | str text => exact ⟨_, _, rfl, isFirst_mark (.inl rfl)⟩
  | arr items => exact ⟨_, _, rfl, isFirst_mark (.inr (.inl rfl))⟩
  | obj members => exact ⟨_, _, rfl, isFirst_mark (.inr (.inr rfl))⟩

/-- What follows an item of an array ends it, and after the separator come the other items. -/
theorem itemsText_cons (item : Json) (more : List Json) :
    ∃ tail, Json.itemsText (item :: more) = item.text ++ tail ∧
      (Json.itemsText more).length ≤ tail.length ∧ ∀ rest, EndsDocument (tail ++ rest) ∧
        dropSeparator (tail ++ rest) = Json.itemsText more ++ rest := by
  cases more with
  | nil =>
    exact ⟨[']'], by rw [Json.itemsText], by rw [Json.itemsText],
      fun rest => ⟨⟨']', rest, rfl, .inr (.inl rfl)⟩, rfl⟩⟩
  | cons second others =>
    exact ⟨',' :: Json.itemsText (second :: others), by simp [Json.itemsText], by simp,
      fun rest => ⟨⟨',', _, rfl, .inl rfl⟩, rfl⟩⟩

/-- What follows a member of an object ends it, and after the separator come the other members. -/
theorem membersText_cons (key : String) (item : Json) (more : List (String × Json)) :
    ∃ tail, Json.membersText ((key, item) :: more) =
        Json.stringText key ++ ':' :: (item.text ++ tail) ∧
      (Json.membersText more).length ≤ tail.length ∧ ∀ rest, EndsDocument (tail ++ rest) ∧
        dropSeparator (tail ++ rest) = Json.membersText more ++ rest := by
  cases more with
  | nil =>
    exact ⟨['\x7d'], by simp [Json.membersText], by rw [Json.membersText],
      fun rest => ⟨⟨'\x7d', rest, rfl, .inr (.inr rfl)⟩, rfl⟩⟩
  | cons second others =>
    exact ⟨',' :: Json.membersText (second :: others), by simp [Json.membersText], by simp,
      fun rest => ⟨⟨',', _, rfl, .inl rfl⟩, rfl⟩⟩

/-- Where an item begins, a round of an array reads it and goes on after the separator. -/
theorem arrayItems_cons {c : Char} (hc : IsFirst c) (item : Scanner Json) (fuel : Nat)
    (known : List Json) (tail : List Char) :
    arrayItems item (fuel + 1) known (c :: tail) =
      (commit (item (c :: tail))).bind fun found =>
        arrayItems item fuel (found.1 :: known) (dropSeparator found.2) := by
  rw [arrayItems, (hc.drop tail).2]
  split
  · next h => exact absurd (List.cons.inj h).1 hc.bracket
  · rfl

/-- One item of an array is read, and then the others. -/
theorem arrayItems_step {item : Json} (hitem : item.Readable) {room fuel : Nat}
    {known more : List Json} {rest : List Char}
    (hread : ∀ left, EndsDocument left → Reads item.nesting room (· = item) left
      (document (container room) (item.text ++ left)))
    (hmore : Reads (Json.nestingItems more) room (· = .arr ((item :: known).reverse ++ more)) rest
      (arrayItems (document (container room)) fuel (item :: known)
        (Json.itemsText more ++ rest))) :
    Reads (Json.nestingItems (item :: more)) room (· = .arr (known.reverse ++ item :: more)) rest
      (arrayItems (document (container room)) (fuel + 1) known
        (Json.itemsText (item :: more) ++ rest)) := by
  obtain ⟨tail, htext, -, htail⟩ := itemsText_cons item more
  obtain ⟨hends, hseparator⟩ := htail rest
  obtain ⟨c, others, hfirst, hc⟩ := text_first ((Json.readable_iff item).mp hitem).1
  have hunfold : arrayItems (document (container room)) (fuel + 1) known
      (Json.itemsText (item :: more) ++ rest) =
        (commit (document (container room) (item.text ++ (tail ++ rest)))).bind fun found =>
          arrayItems (document (container room)) fuel (found.1 :: known)
            (dropSeparator found.2) := by
    rw [htext, List.append_assoc, hfirst, List.cons_append, arrayItems_cons hc]
  rw [hunfold, Json.nestingItems]
  apply Reads.sequence (hread (tail ++ rest) hends).commit
  · intro found hfound hgood
    rw [hfound, hgood]
    change Reads _ _ _ _ (arrayItems _ fuel (item :: known) (dropSeparator (tail ++ rest)))
    rw [hseparator]
    simpa using hmore
  · intro place hplace
    exact ⟨place, by rw [hplace]; rfl⟩

/-- A written key is read. -/
theorem key_text {name : String} (hname : Json.IsPlainText name) (rest : List Char) :
    key (Json.stringText name ++ rest) = .ok (name, rest) := by
  have hread := stringText_surface name rest
  rw [← Json.stringText_eq_surface hname, Json.stringText, List.cons_append, List.cons_append]
    at hread
  rw [Json.stringText, List.cons_append, List.cons_append, key,
    ((isFirst_mark (.inl rfl)).drop _).1]
  exact either_of_ok hread

/-- Where a quoted key begins, a round of an object reads the key, the colon and the document and
goes on after the separator. -/
theorem objectMembers_quote (item : Scanner Json) (fuel : Nat) (known : Keyed Json)
    (tail : List Char) :
    objectMembers item (fuel + 1) known ('"' :: tail) =
      (commit (key ('"' :: tail))).bind fun name =>
        (commit (colon name.2)).bind fun mark =>
          (commit (item mark.2)).bind fun found =>
            objectMembers item fuel (Keyed.insert name.1 found.1 known)
              (dropSeparator found.2) := by
  rw [objectMembers, ((isFirst_mark (.inl rfl)).drop tail).2]
  split
  · next h => cases (List.cons.inj h).1
  · rfl

/-- A member with a plain key is read up to its document. -/
theorem objectMembers_cons {name : String} (hname : Json.IsPlainText name) (item : Scanner Json)
    (fuel : Nat) (known : Keyed Json) (tail : List Char) :
    objectMembers item (fuel + 1) known (Json.stringText name ++ ':' :: tail) =
      (commit (item tail)).bind fun found =>
        objectMembers item fuel (Keyed.insert name found.1 known) (dropSeparator found.2) := by
  have hkey := key_text hname (':' :: tail)
  rw [Json.stringText, List.cons_append, List.cons_append] at hkey ⊢
  rw [objectMembers_quote, hkey]
  rfl

/-- One member of an object is read, and then the others. -/
theorem objectMembers_step {name : String} {item : Json} (hname : Json.IsPlainText name)
    {room fuel : Nat} {known : Keyed Json} {more : List (String × Json)} {rest : List Char}
    (hsorted : ∀ other ∈ Keyed.keys known, other < name)
    (hread : ∀ left, EndsDocument left → Reads item.nesting room (· = item) left
      (document (container room) (item.text ++ left)))
    (hmore : Reads (Json.nestingMembers more) room (· = .obj (known ++ [(name, item)] ++ more)) rest
      (objectMembers (document (container room)) fuel (known ++ [(name, item)])
        (Json.membersText more ++ rest))) :
    Reads (Json.nestingMembers ((name, item) :: more)) room
      (· = .obj (known ++ (name, item) :: more)) rest
      (objectMembers (document (container room)) (fuel + 1) known
        (Json.membersText ((name, item) :: more) ++ rest)) := by
  obtain ⟨tail, htext, -, htail⟩ := membersText_cons name item more
  obtain ⟨hends, hseparator⟩ := htail rest
  have hunfold : objectMembers (document (container room)) (fuel + 1) known
      (Json.membersText ((name, item) :: more) ++ rest) =
        (commit (document (container room) (item.text ++ (tail ++ rest)))).bind fun found =>
          objectMembers (document (container room)) fuel (Keyed.insert name found.1 known)
            (dropSeparator found.2) := by
    have hsource : Json.membersText ((name, item) :: more) ++ rest =
        Json.stringText name ++ ':' :: (item.text ++ (tail ++ rest)) := by
      rw [htext]
      simp
    rw [hsource, objectMembers_cons hname]
  rw [hunfold, Json.nestingMembers]
  apply Reads.sequence (hread (tail ++ rest) hends).commit
  · intro found hfound hgood
    rw [hfound, hgood]
    change Reads _ _ _ _ (objectMembers _ fuel (Keyed.insert name item known)
      (dropSeparator (tail ++ rest)))
    rw [hseparator, Keyed.insert_eq_append hsorted]
    simpa using hmore
  · intro place hplace
    exact ⟨place, by rw [hplace]; rfl⟩

/-- There are no more items than characters. -/
theorem length_le_itemsText {items : List Json} (h : Json.ReadableItems items) :
    items.length ≤ (Json.itemsText items).length := by
  induction items with
  | nil => exact Nat.zero_le _
  | cons item more ih =>
    obtain ⟨tail, htext, hlength, -⟩ := itemsText_cons item more
    obtain ⟨c, others, hfirst, -⟩ := text_first ((Json.readable_iff item).mp h.1).1
    have hmore := ih h.2
    rw [htext, hfirst, List.length_append, List.length_cons, List.length_cons]
    omega

/-- There are no more members than characters. -/
theorem length_le_membersText (members : List (String × Json)) :
    members.length ≤ (Json.membersText members).length := by
  induction members with
  | nil => exact Nat.zero_le _
  | cons member more ih =>
    obtain ⟨tail, htext, hlength, -⟩ := membersText_cons member.1 member.2 more
    rw [htext, List.length_append, List.length_cons, List.length_cons, List.length_append]
    omega

/-- An array takes a level and leaves the room for its items. -/
theorem container_array {items : List Json} (hitems : Json.ReadableItems items) {rest : List Char}
    (h : ∀ room fuel, items.length < fuel → Reads (Json.nestingItems items) room (· = .arr items)
      rest (arrayItems (document (container room)) fuel [] (Json.itemsText items ++ rest)))
    (room : Nat) :
    Reads (Json.arr items).nesting room (· = .arr items) rest
      (container room ((Json.arr items).text ++ rest)) := by
  have hlength := length_le_itemsText hitems
  rw [Json.nesting, Json.text, List.cons_append]
  cases room with
  | zero => exact .zero rfl _
  | succ room =>
    apply Reads.succ
    apply h room
    rw [List.length_append]
    omega

/-- An object takes a level and leaves the room for its members. -/
theorem container_object {members : List (String × Json)} {rest : List Char}
    (h : ∀ room fuel, members.length < fuel → Reads (Json.nestingMembers members) room
      (· = .obj members) rest
      (objectMembers (document (container room)) fuel [] (Json.membersText members ++ rest)))
    (room : Nat) :
    Reads (Json.obj members).nesting room (· = .obj members) rest
      (container room ((Json.obj members).text ++ rest)) := by
  have hlength := length_le_membersText members
  rw [Json.nesting, Json.text, List.cons_append]
  cases room with
  | zero => exact .zero rfl _
  | succ room =>
    apply Reads.succ
    apply h room
    rw [List.length_append]
    omega

/-- Keys in order come after those before them. -/
theorem lt_of_sorted {known more : Keyed Json} {name : String} {item : Json}
    (h : Keyed.Sorted (known ++ (name, item) :: more)) :
    ∀ other ∈ Keyed.keys known, other < name := by
  intro other hother
  rw [Keyed.Sorted, Keyed.keys, List.map_append, List.pairwise_append] at h
  exact h.2.2 other hother name List.mem_cons_self

mutual

/-- A written document is read back in a room for its nesting. -/
theorem document_reads : ∀ (item : Json), item.Readable → ∀ (room : Nat) (rest : List Char),
    EndsDocument rest → Reads item.nesting room (· = item) rest
      (document (container room) (item.text ++ rest))
  | .null, _, room, rest, hrest => by
    have hword : ∀ c ∈ ['n', 'u', 'l', 'l'], isWordChar c = true :=
      List.all_eq_true.mp (by decide +kernel)
    exact .of_ok (document_word hword ⟨_, _, rfl, by decide⟩ hrest room) room
  | .bool true, _, room, rest, hrest => by
    have hword : ∀ c ∈ ['t', 'r', 'u', 'e'], isWordChar c = true :=
      List.all_eq_true.mp (by decide +kernel)
    exact .of_ok (document_word hword ⟨_, _, rfl, by decide⟩ hrest room) room
  | .bool false, _, room, rest, hrest => by
    have hword : ∀ c ∈ ['f', 'a', 'l', 's', 'e'], isWordChar c = true :=
      List.all_eq_true.mp (by decide +kernel)
    exact .of_ok (document_word hword ⟨_, _, rfl, by decide⟩ hrest room) room
  | .int n, hitem, room, rest, hrest => by
    obtain ⟨x, hx⟩ := hitem
    have hfinite : x.isFinite = true :=
      Json.isFinite_of_ofNumber (by rw [hx]; exact Json.noConfusion)
    exact .of_ok (hx ▸ document_number hfinite hrest room) room
  | .float y, hitem, room, rest, hrest => by
    obtain ⟨x, hx⟩ := hitem
    have hfinite : x.isFinite = true :=
      Json.isFinite_of_ofNumber (by rw [hx]; exact Json.noConfusion)
    exact .of_ok (hx ▸ document_number hfinite hrest room) room
  | .str text, hitem, room, rest, hrest => .of_ok (document_text hitem rest room) room
  | .arr items, hitem, room, rest, _ =>
    .either (container_array hitem (fun room fuel => arrayItems_reads items hitem room fuel [] rest)
      room)
  | .obj members, hitem, room, rest, _ =>
    .either (container_object (fun room fuel =>
      objectMembers_reads members hitem.2 room fuel [] rest hitem.1) room)

/-- The items of a written array are read back. -/
theorem arrayItems_reads : ∀ (items : List Json), Json.ReadableItems items →
    ∀ (room fuel : Nat) (known : List Json) (rest : List Char), items.length < fuel →
      Reads (Json.nestingItems items) room (· = .arr (known.reverse ++ items)) rest
        (arrayItems (document (container room)) fuel known (Json.itemsText items ++ rest))
  | [], _, room, fuel + 1, known, rest, _ => by
    rw [List.append_nil]
    exact .of_ok rfl room
  | item :: more, hitems, room, fuel + 1, known, rest, hfuel =>
    arrayItems_step hitems.1 (document_reads item hitems.1 room)
      (arrayItems_reads more hitems.2 room fuel (item :: known) rest (by simpa using hfuel))

/-- The members of a written object are read back. -/
theorem objectMembers_reads : ∀ (members : List (String × Json)), Json.ReadableMembers members →
    ∀ (room fuel : Nat) (known : Keyed Json) (rest : List Char),
      Keyed.Sorted (known ++ members) → members.length < fuel →
        Reads (Json.nestingMembers members) room (· = .obj (known ++ members)) rest
          (objectMembers (document (container room)) fuel known (Json.membersText members ++ rest))
  | [], _, room, fuel + 1, known, rest, _, _ => by
    rw [List.append_nil]
    exact .of_ok rfl room
  | (name, item) :: more, hmembers, room, fuel + 1, known, rest, hsorted, hfuel =>
    objectMembers_step hmembers.1 (lt_of_sorted hsorted) (document_reads item hmembers.2.1 room)
      (objectMembers_reads more hmembers.2.2 room fuel (known ++ [(name, item)]) rest
        (by simpa using hsorted) (by simpa using hfuel))

end

/-- A written array or object is read back in a room for its nesting, whatever follows. -/
theorem container_reads {item : Json} (hcontainer : item.IsContainer) (h : item.Readable)
    (room : Nat) (rest : List Char) :
    Reads item.nesting room (· = item) rest (container room (item.text ++ rest)) := by
  cases item with
  | arr items =>
    exact container_array h (fun room fuel => arrayItems_reads items h room fuel [] rest) room
  | obj members =>
    exact container_object (fun room fuel =>
      objectMembers_reads members h.2 room fuel [] rest h.1) room
  | _ => exact absurd hcontainer id

end Reader

end ShapeLisp
