import ShapeLisp.Proofs.Reader.Produced
import ShapeLisp.Proofs.Value.Equality
import ShapeLisp.Regex.Engine

/-!
# When what was read is read again

A value that was read can be displayed, and its display can be read. Almost always this gives an
equal value. It does not in three cases: a number that was too large is displayed as a word, a JSON
text with a control character is displayed with an escape that strings do not have, and several
expressions of one source text were put into a list, which takes a level more than there may be.

Values that can be written are read back. For the others it is shown of every part that reading
its display either fails or gives, up to the same place, something that does not equal it. This
needs the form of values that were read, but not their numbers, so it holds of every value that
equals one that was read: a value of any kind is read back exactly when it can be written and is
not nested too deeply.
-/

namespace ShapeLisp

open ShapeLisp.Text ShapeLisp.Number

/-! ### Equal documents -/

namespace Json

/-- What equals an object or an array is one. -/
theorem isContainer_of_beq {a b : Json} (hequal : beq a b = true) (h : a.IsContainer) :
    b.IsContainer := by
  cases a with
  | arr items =>
    cases b with
    | arr others => trivial
    | _ => cases hequal
  | obj members =>
    cases b with
    | obj others => trivial
    | _ => cases hequal
  | _ => exact absurd h id

/-- A number equals one in a document that reading gives only if it is the same. -/
theorem eq_of_beq_ofNumber {x y z : Float} (h : ofNumber z = .float x) (hequal : (x == y) = true) :
    x = y := by
  have hx := isFinite_of_float h
  rcases same_of_beq hx hequal with hsame | ⟨sign, _, hzero, -⟩
  · exact hsame
  · -- A zero is the document of an integer.
    have hz := isFinite_of_ofNumber (by rw [h]; exact Json.noConfusion)
    rw [ofNumber] at h
    split at h
    · cases h
    · next hnone =>
      rw [if_pos hz] at h
      rw [float.inj h, exactInteger?_of_unpack hzero] at hnone
      cases hnone

mutual

/-- What equals a document that reading gives is such a document. -/
theorem Produced.of_beq {a b : Json} (h : a.Produced) (hequal : beq a b = true) : b.Produced := by
  cases a with
  | null =>
    cases b with
    | null => trivial
    | _ => cases hequal
  | bool value =>
    cases b with
    | bool other => trivial
    | _ => cases hequal
  | int n =>
    cases b with
    | int m => exact eq_of_beq hequal ▸ h
    | _ => cases hequal
  | float x =>
    cases b with
    | float y =>
      obtain ⟨z, hz⟩ := h
      exact eq_of_beq_ofNumber hz hequal ▸ ⟨z, hz⟩
    | _ => cases hequal
  | str text =>
    cases b with
    | str other => trivial
    | _ => cases hequal
  | arr items =>
    cases b with
    | arr others => exact ProducedItems.of_beq h hequal
    | _ => cases hequal
  | obj members =>
    cases b with
    | obj others =>
      obtain ⟨hkeys, hothers⟩ := ProducedMembers.of_beq h.2 hequal
      have hsorted : (Keyed.keys members).Pairwise (· < ·) := h.1
      rw [hkeys] at hsorted
      exact ⟨hsorted, hothers⟩
    | _ => cases hequal

/-- Items that equal those that reading gives are such items. -/
theorem ProducedItems.of_beq {as bs : List Json} (h : ProducedItems as)
    (hequal : beqItems as bs = true) : ProducedItems bs := by
  cases as with
  | nil =>
    cases bs with
    | nil => trivial
    | cons => cases hequal
  | cons a as =>
    cases bs with
    | nil => cases hequal
    | cons b bs =>
      obtain ⟨hfirst, hothers⟩ := Bool.and_eq_true_iff.mp hequal
      exact ⟨h.1.of_beq hfirst, ProducedItems.of_beq h.2 hothers⟩

/-- Members that equal those that reading gives have the same keys and are such members. -/
theorem ProducedMembers.of_beq {as bs : List (String × Json)} (h : ProducedMembers as)
    (hequal : beqMembers as bs = true) : Keyed.keys as = Keyed.keys bs ∧ ProducedMembers bs := by
  cases as with
  | nil =>
    cases bs with
    | nil => exact ⟨rfl, trivial⟩
    | cons => cases hequal
  | cons entry as =>
    cases bs with
    | nil => cases hequal
    | cons other bs =>
      obtain ⟨key, a⟩ := entry
      obtain ⟨name, b⟩ := other
      obtain ⟨hfirst, hothers⟩ := Bool.and_eq_true_iff.mp hequal
      obtain ⟨hkey, hvalue⟩ := Bool.and_eq_true_iff.mp hfirst
      obtain rfl := eq_of_beq hkey
      obtain ⟨hkeys, hmore⟩ := ProducedMembers.of_beq h.2 hothers
      exact ⟨congrArg (key :: ·) hkeys, h.1.of_beq hvalue, hmore⟩

end

end Json

/-! ### Numbers and texts of a value -/

namespace Value

variable [Regex.Engine]

mutual

/-- The numbers in a value, those of its ranges among them. -/
def numbers : Value → List Float
  | .num x => [x]
  | .range start stop step => start :: stop :: step.toList
  | .list items => numbersAll items
  | .quoted inner => numbers inner
  | _ => []

/-- The numbers in the items of a list. -/
def numbersAll : List Value → List Float
  | [] => []
  | item :: rest => numbers item ++ numbersAll rest

end

mutual

/-- The texts in the JSON literals of a value, keys among them. -/
def documentTexts : Value → List String
  | .json document => document.texts
  | .list items => documentTextsAll items
  | .quoted inner => documentTexts inner
  | _ => []

/-- The texts in the JSON literals of the items of a list. -/
def documentTextsAll : List Value → List String
  | [] => []
  | item :: rest => documentTexts item ++ documentTextsAll rest

end

mutual

/-- What reading gives can be written when its numbers are finite and the texts of its JSON literals
are plain. -/
theorem readable_iff : ∀ (value : Value), value.Produced →
    (value.Readable ↔ (∀ x ∈ value.numbers, x.isFinite = true) ∧
      ∀ text ∈ value.documentTexts, Json.IsPlainText text)
  | .nil, _ | .bool _, _ | .num _, _ | .str _, _ => by simp [Readable, numbers, documentTexts]
  | .range _ _ _, _ => by simp [Readable, numbers, documentTexts]
  | .sym _, h | .pointer _, h => by
    rw [Produced] at h
    simpa [Readable, numbers, documentTexts] using h
  | .regex _, h => by
    rw [Produced] at h
    simpa [Readable, numbers, documentTexts] using h.1
  | .json document, h => by
    rw [Produced] at h
    simp [Readable, numbers, documentTexts, Json.readable_iff, h.1, h.2]
  | .quoted inner, h => by
    rw [Readable, numbers, documentTexts]
    exact readable_iff inner h
  | .list items, h => by
    rw [Readable, numbers, documentTexts]
    exact readableAll_iff items h

/-- Items that reading gives can be written under the same condition. -/
theorem readableAll_iff : ∀ (items : List Value), ProducedAll items →
    (ReadableAll items ↔ (∀ x ∈ numbersAll items, x.isFinite = true) ∧
      ∀ text ∈ documentTextsAll items, Json.IsPlainText text)
  | [], _ => by simp [ReadableAll, numbersAll, documentTextsAll]
  | item :: rest, h => by
    rw [ReadableAll, numbersAll, documentTextsAll, readable_iff item h.1, readableAll_iff rest h.2,
      List.forall_mem_append, List.forall_mem_append, and_and_and_comm]

end

/-! ### Values of the form of values that were read -/

mutual

/-- A value whose names, paths, regular expressions and documents are of the form that reading
gives, whatever its numbers are. -/
def Formed : Value → Prop
  | .sym name => Reader.IsSymbolName name.toList
  | .list items => FormedAll items
  | .quoted inner => Formed inner
  | .regex literal =>
    Reader.IsRegexLiteral literal ∧ Reader.escapesClosed false literal.source.toList = true
  | .json document => document.IsContainer ∧ document.Produced
  | .pointer path => Reader.IsPointerPath path.toList
  | .builtin _ => False
  | .closure _ _ _ _ => False
  | _ => True

/-- Every item of a list is of this form. -/
def FormedAll : List Value → Prop
  | [] => True
  | item :: rest => Formed item ∧ FormedAll rest

end

mutual

/-- What reading gives is of this form. -/
theorem Produced.formed : ∀ {value : Value}, value.Produced → value.Formed
  | .list _, h => ProducedAll.formed h
  | .quoted inner, h => by
    have hinner : inner.Produced := h
    exact hinner.formed
  | .sym _, h | .regex _, h | .json _, h | .pointer _, h => h
  | .nil, _ | .bool _, _ | .num _, _ | .str _, _ | .range _ _ _, _ => trivial

/-- The items of a list that reading gives are of this form. -/
theorem ProducedAll.formed : ∀ {items : List Value}, ProducedAll items → FormedAll items
  | [], _ => trivial
  | _ :: _, h => ⟨h.1.formed, ProducedAll.formed h.2⟩

end

mutual

/-- What equals a value that reading gives is of this form. -/
theorem Produced.formed_of_beq {model value : Value} (h : model.Produced)
    (hequal : beq model value = true) : value.Formed := by
  cases sameForm_of_beq hequal with
  | same => exact h.formed
  | num => trivial
  | list hitems => exact ProducedAll.formed_of_beq h hitems
  | @quoted inner other hinner =>
    have hproduced : inner.Produced := h
    have hother : other.Formed := hproduced.formed_of_beq hinner
    exact hother
  | range => trivial
  | json hdocuments => exact ⟨Json.isContainer_of_beq hdocuments h.1, h.2.of_beq hdocuments⟩
  | closure => exact absurd h id

/-- Items that equal those of a list that reading gives are of this form. -/
theorem ProducedAll.formed_of_beq {models items : List Value} (h : ProducedAll models)
    (hequal : beqAll models items = true) : FormedAll items := by
  cases models with
  | nil =>
    cases items with
    | nil => trivial
    | cons => cases hequal
  | cons model rest =>
    cases items with
    | nil => cases hequal
    | cons item others =>
      obtain ⟨hfirst, hothers⟩ := Bool.and_eq_true_iff.mp hequal
      exact ⟨h.1.formed_of_beq hfirst, ProducedAll.formed_of_beq h.2 hothers⟩

end

mutual

/-- The regular expressions in a value of this form are closed. -/
theorem Formed.regexesClosed : ∀ {value : Value}, value.Formed → Reader.RegexesClosed value
  | .regex literal, h => by
    intro other hother
    rw [List.mem_singleton.mp hother]
    exact h.2
  | .list _, h => FormedAll.regexesClosed h
  | .quoted inner, h => by
    have hinner : inner.Formed := h
    exact hinner.regexesClosed
  | .nil, _ | .bool _, _ | .num _, _ | .str _, _ | .sym _, _ | .range _ _ _, _ | .json _, _
  | .pointer _, _ => fun _ hmem => nomatch hmem

/-- The regular expressions in the items of a list of this form are closed. -/
theorem FormedAll.regexesClosed : ∀ {items : List Value}, FormedAll items →
    Reader.AllRegexesClosed items
  | [], _ => fun _ hmem => nomatch hmem
  | _ :: _, h => by
    intro literal hliteral
    rcases List.mem_append.mp hliteral with hfirst | hothers
    · exact h.1.regexesClosed literal hfirst
    · exact FormedAll.regexesClosed h.2 literal hothers

end

end Value

namespace Reader

/-! ### Answers up to a place -/

/-- The scanner fails for good, or it reads up to the given place with a good result. -/
def Settles {α : Type} (good : α → Prop) (rest : List Char)
    (outcome : Except Stop (α × List Char)) : Prop :=
  (∃ found, outcome = .ok (found, rest) ∧ good found) ∨
    ∃ stop, outcome = .error stop ∧ stop.committed = true

namespace Settles

variable {α β : Type} {good : α → Prop} {goal : β → Prop} {left rest : List Char}
  {outcome : Except Stop (α × List Char)}

/-- A result. -/
theorem of_ok {found : α} (h : outcome = .ok (found, rest)) (hgood : good found) :
    Settles good rest outcome := .inl ⟨found, h, hgood⟩

/-- A failure. -/
theorem of_failed {trouble : Trouble} {place : List Char} (h : outcome = failed trouble place) :
    Settles good rest outcome := .inr ⟨_, h, rfl⟩

/-- What is good may be good enough. -/
theorem imp {other : α → Prop} (h : Settles good rest outcome)
    (hother : ∀ found, good found → other found) : Settles other rest outcome := by
  rcases h with ⟨found, hfound, hgood⟩ | hstop
  · exact .inl ⟨found, hfound, hother found hgood⟩
  · exact .inr hstop

/-- A result may be changed. -/
theorem mapResult {f : α → β} (h : Settles good rest outcome)
    (hgoal : ∀ found, good found → goal (f found)) :
    Settles goal rest (Reader.mapResult f outcome) := by
  rcases h with ⟨found, rfl, hgood⟩ | ⟨stop, rfl, hfinal⟩
  · exact .of_ok rfl (hgoal found hgood)
  · exact .inr ⟨stop, rfl, hfinal⟩

/-- Being committed changes nothing. -/
theorem commit (h : Settles good rest outcome) : Settles good rest (Reader.commit outcome) := by
  rcases h with ⟨found, rfl, hgood⟩ | ⟨stop, rfl, -⟩
  · exact .of_ok rfl hgood
  · exact .inr ⟨_, rfl, rfl⟩

/-- No other reading is tried. -/
theorem either {first second : Scanner α} {text : List Char}
    (h : Settles good rest (first text)) :
    Settles good rest (Reader.either first second text) := by
  rcases h with ⟨found, hfound, hgood⟩ | ⟨stop, hstop, hfinal⟩
  · exact .of_ok (either_of_ok hfound) hgood
  · refine .inr ⟨stop, ?_, hfinal⟩
    rw [Reader.either, hstop]
    dsimp only
    rw [if_pos hfinal]

/-- One part is read after the other. -/
theorem bind {next : α × List Char → Except Stop (β × List Char)} (h : Settles good left outcome)
    (hnext : ∀ found, good found → Settles goal rest (next (found, left))) :
    Settles goal rest (outcome.bind next) := by
  rcases h with ⟨found, rfl, hgood⟩ | ⟨stop, rfl, hfinal⟩
  · exact hnext found hgood
  · exact .inr ⟨stop, rfl, hfinal⟩

end Settles

/-- What is read by the room there is settles. -/
theorem Reads.settles {α : Type} {levels room : Nat} {good : α → Prop} {rest : List Char}
    {outcome : Except Stop (α × List Char)} (h : Reads levels room good rest outcome) :
    Settles good rest outcome := by
  rcases Nat.lt_or_ge room levels with hroom | hroom
  · obtain ⟨place, hplace⟩ := h.tooDeep hroom
    exact .of_failed hplace
  · obtain ⟨found, hfound, hgood⟩ := h.fits hroom
    exact .of_ok hfound hgood

/-! ### JSON literals -/

/-- A character that is not plain is written with an escape that strings do not have. -/
theorem stringBody_charText {c : Char} (hc : ¬ (0x20 ≤ c.toNat ∨ c = '\n' ∨ c = '\r' ∨ c = '\t'))
    (rest : List Char) :
    ∃ place, stringBody (Json.charText c ++ rest) = failed .unexpected place := by
  rw [not_or, not_or, not_or, Nat.not_le] at hc
  obtain ⟨hsmall, hline, hreturn, htab⟩ := hc
  have hquote : c ≠ '"' := by
    rintro rfl
    exact absurd hsmall (by decide)
  have hbackslash : c ≠ '\\' := by
    rintro rfl
    exact absurd hsmall (by decide)
  by_cases hbackspace : c = '\x08'
  · rw [hbackspace]
    exact ⟨_, rfl⟩
  by_cases hfeed : c = '\x0c'
  · rw [hfeed]
    exact ⟨_, rfl⟩
  rw [Json.charText, if_neg hquote, if_neg hbackslash, if_neg hbackspace, if_neg hfeed,
    if_neg hline, if_neg hreturn, if_neg htab, if_pos hsmall]
  exact ⟨_, rfl⟩

/-- A written text is read to its end if it is plain. -/
theorem stringBody_settles (text rest : List Char) :
    Settles (fun _ => ∀ c ∈ text, 0x20 ≤ c.toNat ∨ c = '\n' ∨ c = '\r' ∨ c = '\t') rest
      (stringBody (text.flatMap Json.charText ++ '"' :: rest)) := by
  induction text with
  | nil => exact .of_ok rfl (List.forall_mem_nil _)
  | cons c more ih =>
    rw [List.flatMap_cons, List.append_assoc]
    by_cases hc : 0x20 ≤ c.toNat ∨ c = '\n' ∨ c = '\r' ∨ c = '\t'
    · rw [Json.charText_eq_surfaceChar hc, stringBody_surfaceChar]
      exact ih.mapResult fun _ hmore => List.forall_mem_cons.mpr ⟨hc, hmore⟩
    · obtain ⟨place, hplace⟩ := stringBody_charText hc (more.flatMap Json.charText ++ '"' :: rest)
      exact .of_failed hplace

/-- The text of a written JSON string is read if it is plain. -/
theorem stringText_settles (text : String) (rest : List Char) :
    Settles (fun _ => Json.IsPlainText text) rest
      (stringText (Json.stringText text ++ rest)) := by
  rw [Json.stringText, List.cons_append, List.cons_append, List.append_assoc, stringText]
  exact (stringBody_settles text.toList rest).mapResult fun _ hplain => hplain

/-- A written key is read if it is plain. -/
theorem key_settles (name : String) (rest : List Char) :
    Settles (fun _ => Json.IsPlainText name) rest (key (Json.stringText name ++ rest)) := by
  have hread := stringText_settles name rest
  rw [Json.stringText, List.cons_append, List.cons_append] at hread ⊢
  rw [key, ((isFirst_mark (.inl rfl)).drop _).1]
  exact hread.either

/-- A written JSON string is read if it is plain. -/
theorem document_text_settles (text : String) (room : Nat) (rest : List Char) :
    Settles (fun _ => Json.IsPlainText text) rest
      (document (container room) (Json.stringText text ++ rest)) := by
  have hread := stringText_settles text rest
  rw [Json.stringText, List.cons_append, List.cons_append] at hread ⊢
  rw [document, ((isFirst_mark (.inl rfl)).drop _).1,
    either_of_declines (container_declines (by decide) (by decide) room _)]
  have hdocument : Settles (fun _ => Json.IsPlainText text) rest (mapResult Json.str
      (stringText ('"' :: (text.toList.flatMap Json.charText ++ ['"'] ++ rest)))) :=
    hread.mapResult fun _ hplain => hplain
  exact hdocument.either

/-- One item of an array is read, and then the others. -/
theorem arrayItems_settles_step {item : Json} (hitem : item.Produced) {room fuel : Nat}
    {known more : List Json} {rest : List Char}
    (hread : ∀ left, EndsDocument left → Settles (fun _ => item.Readable) left
      (document (container room) (item.text ++ left)))
    (hmore : ∀ found, Settles (fun _ => Json.ReadableItems more) rest
      (arrayItems (document (container room)) fuel (found :: known)
        (Json.itemsText more ++ rest))) :
    Settles (fun _ => Json.ReadableItems (item :: more)) rest
      (arrayItems (document (container room)) (fuel + 1) known
        (Json.itemsText (item :: more) ++ rest)) := by
  obtain ⟨tail, htext, -, htail⟩ := itemsText_cons item more
  obtain ⟨hends, hseparator⟩ := htail rest
  obtain ⟨c, others, hfirst, hc⟩ := text_first hitem
  have hitem := hread (tail ++ rest) hends
  rw [hfirst, List.cons_append] at hitem
  rw [htext, List.append_assoc, hfirst, List.cons_append, arrayItems_cons hc]
  refine hitem.commit.bind fun found hreadable => ?_
  dsimp only
  rw [hseparator]
  exact (hmore found).imp fun _ hothers => ⟨hreadable, hothers⟩

/-- One member of an object is read, and then the others. -/
theorem objectMembers_settles_step {name : String} {item : Json} {room fuel : Nat}
    {known : Keyed Json} {more : List (String × Json)} {rest : List Char}
    (hread : ∀ left, EndsDocument left → Settles (fun _ => item.Readable) left
      (document (container room) (item.text ++ left)))
    (hmore : ∀ others : Keyed Json, Settles (fun _ => Json.ReadableMembers more) rest
      (objectMembers (document (container room)) fuel others (Json.membersText more ++ rest))) :
    Settles (fun _ => Json.ReadableMembers ((name, item) :: more)) rest
      (objectMembers (document (container room)) (fuel + 1) known
        (Json.membersText ((name, item) :: more) ++ rest)) := by
  obtain ⟨tail, htext, -, htail⟩ := membersText_cons name item more
  obtain ⟨hends, hseparator⟩ := htail rest
  have hkey := key_settles name (':' :: (item.text ++ (tail ++ rest)))
  have hsource : Json.membersText ((name, item) :: more) ++ rest =
      Json.stringText name ++ ':' :: (item.text ++ (tail ++ rest)) := by
    rw [htext]
    simp
  rw [hsource]
  rw [Json.stringText, List.cons_append, List.cons_append] at hkey ⊢
  rw [objectMembers_quote]
  refine hkey.commit.bind fun key hplain => ?_
  change Settles _ _ ((commit (document (container room) (item.text ++ (tail ++ rest)))).bind _)
  refine (hread (tail ++ rest) hends).commit.bind fun found hreadable => ?_
  dsimp only
  rw [hseparator]
  exact (hmore _).imp fun _ hothers => ⟨hplain, hreadable, hothers⟩

/-- A written array settles when its items do. -/
theorem container_array_settles {items : List Json} {rest : List Char}
    (h : ∀ room fuel, Settles (fun _ => Json.ReadableItems items) rest
      (arrayItems (document (container room)) fuel [] (Json.itemsText items ++ rest)))
    (room : Nat) :
    Settles (fun _ => (Json.arr items).Readable) rest
      (container room ((Json.arr items).text ++ rest)) := by
  rw [Json.text, List.cons_append]
  cases room with
  | zero => exact .of_failed rfl
  | succ room => exact h room _

/-- A written object settles when its members do. -/
theorem container_object_settles {members : List (String × Json)} (hsorted : Keyed.Sorted members)
    {rest : List Char}
    (h : ∀ room fuel, Settles (fun _ => Json.ReadableMembers members) rest
      (objectMembers (document (container room)) fuel [] (Json.membersText members ++ rest)))
    (room : Nat) :
    Settles (fun _ => (Json.obj members).Readable) rest
      (container room ((Json.obj members).text ++ rest)) := by
  rw [Json.text, List.cons_append]
  cases room with
  | zero => exact .of_failed rfl
  | succ room => exact (h room _).imp fun _ hmembers => ⟨hsorted, hmembers⟩

mutual

/-- A written document is read up to its end only if it can be written. -/
theorem document_settles : ∀ (item : Json), item.Produced → ∀ (room : Nat) (rest : List Char),
    EndsDocument rest → Settles (fun _ => item.Readable) rest
      (document (container room) (item.text ++ rest))
  | .str text, _, room, rest, _ => document_text_settles text room rest
  | .arr items, hitem, room, rest, _ =>
    .either (container_array_settles (fun room fuel =>
      arrayItems_settles items hitem room fuel [] rest) room)
  | .obj members, hitem, room, rest, _ =>
    .either (container_object_settles hitem.1 (fun room fuel =>
      objectMembers_settles members hitem.2 room fuel [] rest) room)
  | .null, _, room, rest, hrest =>
    (document_reads .null trivial room rest hrest).settles.imp fun _ _ => trivial
  | .bool value, _, room, rest, hrest =>
    (document_reads (.bool value) trivial room rest hrest).settles.imp fun _ _ => trivial
  | .int n, hitem, room, rest, hrest =>
    (document_reads (.int n) hitem room rest hrest).settles.imp fun _ _ => hitem
  | .float x, hitem, room, rest, hrest =>
    (document_reads (.float x) hitem room rest hrest).settles.imp fun _ _ => hitem

/-- The items of a written array are read to their end only if they can be written. -/
theorem arrayItems_settles : ∀ (items : List Json), Json.ProducedItems items →
    ∀ (room fuel : Nat) (known : List Json) (rest : List Char),
      Settles (fun _ => Json.ReadableItems items) rest
        (arrayItems (document (container room)) fuel known (Json.itemsText items ++ rest))
  | _, _, _, 0, _, _ => .of_failed rfl
  | [], _, _, _ + 1, _, _ => .of_ok rfl trivial
  | item :: more, hitems, room, fuel + 1, known, rest =>
    arrayItems_settles_step hitems.1 (document_settles item hitems.1 room) fun found =>
      arrayItems_settles more hitems.2 room fuel (found :: known) rest

/-- The members of a written object are read to their end only if they can be written. -/
theorem objectMembers_settles : ∀ (members : List (String × Json)), Json.ProducedMembers members →
    ∀ (room fuel : Nat) (known : Keyed Json) (rest : List Char),
      Settles (fun _ => Json.ReadableMembers members) rest
        (objectMembers (document (container room)) fuel known (Json.membersText members ++ rest))
  | _, _, _, 0, _, _ => .of_failed rfl
  | [], _, _, _ + 1, _, _ => .of_ok rfl trivial
  | (_, item) :: more, hmembers, room, fuel + 1, _, rest =>
    objectMembers_settles_step (document_settles item hmembers.1 room) fun others =>
      objectMembers_settles more hmembers.2 room fuel others rest

end

/-- A written JSON literal is read only if it can be written. -/
theorem container_settles {document : Json} (hcontainer : document.IsContainer)
    (h : document.Produced) (room : Nat) (rest : List Char) :
    Settles (fun _ => document.Readable) rest (container room (document.text ++ rest)) := by
  cases document with
  | arr items =>
    exact container_array_settles (fun room fuel => arrayItems_settles items h room fuel [] rest)
      room
  | obj members =>
    exact container_object_settles h.1 (fun room fuel =>
      objectMembers_settles members h.2 room fuel [] rest) room
  | _ => exact absurd hcontainer id

/-! ### Numbers that are not finite -/

/-- A number that is not finite is displayed as a word, with a sign if it is infinite and
negative. -/
theorem surfaceText_word {x : Float} (hx : x.isFinite = false) :
    surfaceText x = ['i', 'n', 'f'] ∨ surfaceText x = ['-', 'i', 'n', 'f'] ∨
      surfaceText x = ['N', 'a', 'N'] := by
  have hinteger : exactInteger? x = none := by
    rw [exactInteger?, isIntegral, hx, Bool.false_and, Bool.false_and, if_neg Bool.false_ne_true]
  rw [surfaceText, hinteger]
  dsimp only
  rw [Layout.text, hx]
  cases x.isNaN with
  | true => exact .inr (.inr rfl)
  | false =>
    cases isNegative x with
    | true => exact .inr (.inl rfl)
    | false => exact .inl rfl

/-- The text of a number as it stands in a token: its characters may stand in a symbol, it does not
begin with a slash, and a letter of the word tells that the number is not finite. -/
structure IsNumberToken (text : List Char) (finite : Bool) : Prop where
  /-- Its characters may stand in a symbol. -/
  all : ∀ c ∈ text, isSymbolChar c = true
  /-- It begins with something other than a slash. -/
  first : ∃ c tail, text = c :: tail ∧ c ≠ '/'
  /-- The letter of the word is there when the number is not finite. -/
  letter : finite = false → ∃ c ∈ text, c = 'n' ∨ c = 'N'

/-- A number is displayed as such a text. -/
theorem isNumberToken_surfaceText (x : Float) : IsNumberToken (surfaceText x) x.isFinite := by
  cases hx : x.isFinite with
  | true =>
    obtain ⟨found, hspells, -⟩ := spells_surfaceText hx
    have htext : IsNumberText (surfaceText x) := ⟨found, hspells⟩
    refine ⟨htext.isSymbolChar, ?_, fun h => nomatch h⟩
    cases hfirst : surfaceText x with
    | nil => exact absurd hfirst htext.ne_nil
    | cons c tail =>
      rw [hfirst] at htext
      refine ⟨c, tail, rfl, ?_⟩
      rcases htext.first with hdigit | rfl | rfl
      · rintro rfl
        exact absurd hdigit (by decide)
      · decide
      · decide
  | false =>
    rcases surfaceText_word hx with htext | htext | htext
    all_goals
      rw [htext]
      exact ⟨List.all_eq_true.mp (by decide +kernel), ⟨_, _, rfl, by decide⟩, fun _ => by simp⟩

/-- A text goes on with characters that may stand in a symbol. -/
theorem IsNumberToken.append {text more : List Char} {finite finite' : Bool}
    (h : IsNumberToken text finite) (hall : ∀ c ∈ more, isSymbolChar c = true)
    (hletter : finite' = false → ∃ c ∈ more, c = 'n' ∨ c = 'N') :
    IsNumberToken (text ++ more) (finite && finite') where
  all c hc := (List.mem_append.mp hc).elim (h.all c) (hall c)
  first := by
    obtain ⟨c, tail, rfl, hc⟩ := h.first
    exact ⟨c, tail ++ more, rfl, hc⟩
  letter hfinite := by
    rcases Bool.and_eq_false_iff.mp hfinite with hfirst | hsecond
    · obtain ⟨c, hc, hword⟩ := h.letter hfirst
      exact ⟨c, List.mem_append_left more hc, hword⟩
    · obtain ⟨c, hc, hword⟩ := hletter hsecond
      exact ⟨c, List.mem_append_right text hc, hword⟩

/-- A range is displayed as such a text. -/
theorem isNumberToken_rangeText (start stop : Float) (step : Option Float) :
    IsNumberToken (Value.rangeText start stop step)
      (start.isFinite && stop.isFinite && step.all Float.isFinite) := by
  have hpoint : ∀ c ∈ ['.', '.'], isSymbolChar c = true := List.all_eq_true.mp (by decide +kernel)
  have hslash : ∀ c ∈ ['/', '/'], isSymbolChar c = true := List.all_eq_true.mp (by decide +kernel)
  have hsecond := isNumberToken_surfaceText stop
  have hpoints := (isNumberToken_surfaceText start).append hpoint
    (fun h : true = false => nomatch h)
  have hspan := hpoints.append hsecond.all hsecond.letter
  rw [Bool.and_true] at hspan
  cases step with
  | none => simpa [Value.rangeText] using hspan
  | some step =>
    have hthird := isNumberToken_surfaceText step
    have hslashes := hspan.append hslash (fun h : true = false => nomatch h)
    have hwhole := hslashes.append hthird.all hthird.letter
    rw [Bool.and_true] at hwhole
    exact hwhole

section AnyEngine

variable [Regex.Engine]

/-- A token with the letter of the word is neither a number nor a range, so it is read as a word or
not at all. -/
theorem IsNumberToken.settles {name : List Char} (h : IsNumberToken name false) {rest : List Char}
    (hrest : EndsToken rest) (room : Nat) :
    Settles (fun found => found = wordValue name) rest
      (commit (expression true room (name ++ rest))) := by
  obtain ⟨letter, hletter, hword⟩ := h.letter rfl
  have hdigits : ∀ c, isAsciiDigit c = true → c ≠ letter := by
    rintro c hc rfl
    rcases hword with rfl | rfl
    · exact absurd hc (by decide)
    · exact absurd hc (by decide)
  have hmarks : ∀ c ∈ ['+', '-', '.', 'e', 'E'], c ≠ letter := by
    rcases hword with rfl | rfl
    · simp
    · simp
  have hslash : '/' ≠ letter := by
    rcases hword with rfl | rfl
    · decide
    · decide
  have hnumber : ¬ IsNumberText name := by
    intro htext
    exact htext.forall_mem hdigits hmarks letter hletter rfl
  have hrange : ¬ IsRangeText name := by
    intro htext
    exact htext.forall_mem hdigits hmarks hslash letter hletter rfl
  cases room with
  | zero => exact .inr ⟨_, rfl, rfl⟩
  | succ room =>
    obtain ⟨c, tail, rfl, hslash⟩ := h.first
    have hc : isSymbolChar c = true := h.all c List.mem_cons_self
    rw [List.cons_append, expression_token (.of_isSymbolChar hc)]
    by_cases hdigit : isAsciiDigit c = true
    · -- A word does not begin with a digit either.
      have hquote : c ≠ '"' := ne_of_isSymbolChar hc (by decide +kernel)
      have hends : ∀ c tail, rest = c :: tail → isSymbolChar c = false :=
        fun _ _ => hrest.isSymbolChar
      have hspan := span_append h.all hends
      have hsymbol : symbol (c :: tail ++ rest) = unexpected (c :: tail ++ rest) := by
        unfold symbol
        rw [hspan]
        dsimp only
        rw [if_pos hdigit]
      have hnoRange := range_recognizes.declines (fun _ h => h.isSymbolChar) h.all hrange hends
      have hnoNumber := number_recognizes.declines (fun _ h => h.isSymbolChar) h.all hnumber hends
      rw [token_of_first hquote hslash, ← List.cons_append, either_of_declines hnoRange,
        either_of_declines hnoNumber, hsymbol]
      exact .inr ⟨_, rfl, rfl⟩
    · have hword : IsWord (c :: tail) := by
        refine ⟨List.cons_ne_nil c tail, h.all, ?_, hnumber, hrange, ?_⟩
        · intro d more hd
          obtain ⟨rfl, -⟩ := List.cons.inj hd
          exact Bool.eq_false_iff.mpr hdigit
        · intro more hmore
          exact absurd (List.cons.inj hmore).1 hslash
      rw [← List.cons_append, token_word hword hrest]
      exact .of_ok rfl rfl

/-! ### Expressions -/

/-- What is read equals the value only if the value can be written. -/
def EqualOnlyIfReadable (value found : Value) : Prop :=
  (found == value) = true → value.Readable

/-- A word equals no value that has numbers in it. -/
theorem wordValue_beq_eq_false {value : Value} (hvalue : value.numbers ≠ []) (name : List Char) :
    (wordValue name == value) = false := by
  rcases wordValue_cases name with hname | ⟨literal, hname⟩ | ⟨hname, -⟩
  all_goals
    rw [hname]
    cases value with
    | nil | bool | sym => exact absurd rfl hvalue
    | _ => rfl

/-- Of the values without parts, only numbers and ranges that are displayed with a word and JSON
literals cannot always be written. -/
theorem unreadable_atom {value : Value} (h : value.Formed) (hatom : value.IsAtom)
    (hnot : ¬ value.Readable) :
    (IsNumberToken value.displayChars false ∧ ∀ name, (wordValue name == value) = false) ∨
      ∃ document, value = .json document := by
  cases value with
  | num x =>
    have htoken := isNumberToken_surfaceText x
    rw [Bool.eq_false_iff.mpr hnot] at htoken
    exact .inl ⟨htoken, wordValue_beq_eq_false (List.cons_ne_nil x [])⟩
  | range start stop step =>
    have htoken := isNumberToken_rangeText start stop step
    have hinfinite : (start.isFinite && stop.isFinite && step.all Float.isFinite) = false := by
      apply Bool.eq_false_iff.mpr
      intro hfinite
      rw [Bool.and_eq_true, Bool.and_eq_true, Option.all_eq_true] at hfinite
      exact hnot ⟨hfinite.1.1, hfinite.1.2, hfinite.2⟩
    rw [hinfinite] at htoken
    exact .inl ⟨htoken, wordValue_beq_eq_false (List.cons_ne_nil start _)⟩
  | json document => exact .inr ⟨document, rfl⟩
  | regex literal => exact absurd h.1 hnot
  | sym name => exact absurd h hnot
  | pointer path => exact absurd h hnot
  | list items => exact absurd hatom id
  | quoted inner => exact absurd hatom id
  | builtin name => exact absurd h id
  | closure params rest body scope => exact absurd h id
  | _ => exact absurd trivial hnot

/-- The text of a value begins like an expression. -/
theorem rendered_begins {value : Value} (h : value.Formed) {text : List Char}
    (htext : Rendered value text) : ∃ c tail, text = c :: tail ∧ BeginsExpression c := by
  by_cases hreadable : value.Readable
  · exact rendered_first hreadable h.regexesClosed htext
  by_cases hatom : value.IsAtom
  · rw [rendered_atom hatom htext]
    rcases unreadable_atom h hatom hreadable with ⟨htoken, -⟩ | ⟨document, rfl⟩
    · obtain ⟨c, tail, hfirst, -⟩ := htoken.first
      refine ⟨c, tail, hfirst, .of_isSymbolChar (htoken.all c ?_)⟩
      rw [hfirst]
      exact List.mem_cons_self
    · obtain ⟨c, tail, hfirst, hc⟩ := container_first h.1
      refine ⟨c, tail, hfirst, ?_⟩
      rcases hc with rfl | rfl <;> exact ⟨by decide, by decide, by decide⟩
  · exact rendered_first_of_parts hatom htext

/-- The display of a JSON literal is read only if the literal can be written. -/
theorem expression_json_settles {document : Json} (h : (Value.json document).Formed) (room : Nat)
    (rest : List Char) :
    Settles (EqualOnlyIfReadable (.json document)) rest
      (commit (expression true room (document.text ++ rest))) := by
  cases room with
  | zero => exact .inr ⟨_, rfl, rfl⟩
  | succ room =>
    have hjson : Settles (EqualOnlyIfReadable (.json document)) rest
        (mapResult .json (container (room + 1) (document.text ++ rest))) :=
      (container_settles h.1 h.2 (room + 1) rest).mapResult fun _ hreadable _ => ⟨h.1, hreadable⟩
    rw [expression_container h.1]
    exact hjson.either.commit

/-- The display of a value without parts is read as an equal one only if it can be written. -/
theorem expression_atom_settles {value : Value} (h : value.Formed) (hatom : value.IsAtom)
    (room : Nat) {rest : List Char} (hrest : EndsToken rest) :
    Settles (EqualOnlyIfReadable value) rest
      (commit (expression true room (value.displayChars ++ rest))) := by
  by_cases hreadable : value.Readable
  · have hread := expression_atom hatom hreadable h.regexesClosed room hrest
    exact hread.settles.commit.imp fun _ _ _ => hreadable
  · rcases unreadable_atom h hatom hreadable with ⟨htoken, hword⟩ | ⟨document, rfl⟩
    · refine (htoken.settles hrest room).imp ?_
      rintro _ rfl hequal
      rw [hword] at hequal
      cases hequal
    · exact expression_json_settles h room rest

/-- The list that is read from elements already known and others, which equal the items only if
these can be written. -/
def ListOnlyIfReadable (known items : List Value) (found : Value) : Prop :=
  ∃ others, found = .list (known.reverse ++ others) ∧
    (Value.beqAll others items = true → Value.ReadableAll items)

/-- A list settles when its elements do. -/
theorem expression_list_settles {items : List Value} {text rest : List Char}
    (h : ∀ room, Settles (ListOnlyIfReadable [] items) rest
      (elements true (expression true room) (text.length + 1) [] text))
    (room : Nat) :
    Settles (EqualOnlyIfReadable (.list items)) rest
      (commit (expression true room ('(' :: text))) := by
  cases room with
  | zero => exact .inr ⟨_, rfl, rfl⟩
  | succ room =>
    have hlist : Settles (EqualOnlyIfReadable (.list items)) rest
        (parenthesized true (expression true room) ('(' :: text)) := by
      refine (h room).imp ?_
      rintro _ ⟨others, rfl, hothers⟩
      exact hothers
    rw [expression_opening]
    exact hlist.either.commit

/-- A quotation settles when the expression after the mark does. -/
theorem expression_quoted_settles {inner : Value} {text rest : List Char}
    (h : ∀ room, Settles (EqualOnlyIfReadable inner) rest (commit (expression true room text)))
    (room : Nat) :
    Settles (EqualOnlyIfReadable (.quoted inner)) rest
      (commit (expression true room ('\'' :: text))) := by
  cases room with
  | zero => exact .inr ⟨_, rfl, rfl⟩
  | succ room =>
    have hinner : Settles (EqualOnlyIfReadable (.quoted inner)) rest
        (quotation (expression true room) ('\'' :: text)) :=
      (h room).mapResult fun _ hequal => hequal
    rw [expression, beginsExpression_mark.skip]
    exact hinner.either.commit

/-- A gap in front of an expression is skipped. -/
theorem Gap.settles {gap : List Char} (hgap : Gap gap) {room : Nat} {good : Value → Prop}
    {text rest : List Char} (h : Settles good rest (commit (expression true room text))) :
    Settles good rest (commit (expression true room (gap ++ text))) := by
  cases room with
  | zero => exact .inr ⟨_, rfl, rfl⟩
  | succ room =>
    rw [expression] at h ⊢
    rw [hgap.skip]
    exact h

mutual

/-- Every text of a value is read up to its end as something that equals the
value only if it can be written, or it is not read. -/
theorem expression_settles : ∀ (value : Value), value.Formed → ∀ (text : List Char),
    Rendered value text → ∀ (room : Nat) (rest : List Char), EndsToken rest →
      Settles (EqualOnlyIfReadable value) rest (commit (expression true room (text ++ rest)))
  | .list items, h, text, htext, room, rest, _ => by
    obtain ⟨gap, body, close, hgap, hbody, hclose, rfl⟩ := htext
    rw [List.cons_append]
    apply expression_list_settles
    intro room
    have hitems := elements_settles items h body hbody room
      ((gap ++ (body ++ (close ++ [')'])) ++ rest).length + 1) [] gap close rest hgap hclose
    simpa only [List.append_assoc, List.singleton_append] using hitems
  | .quoted inner, h, text, htext, room, rest, hrest => by
    obtain ⟨gap, body, hgap, hbody, rfl⟩ := htext
    rw [List.cons_append, List.append_assoc]
    apply expression_quoted_settles
    intro room
    exact hgap.settles (expression_settles inner h body hbody room rest hrest)
  | .nil, h, text, htext, room, rest, hrest
  | .bool _, h, text, htext, room, rest, hrest
  | .num _, h, text, htext, room, rest, hrest
  | .str _, h, text, htext, room, rest, hrest
  | .sym _, h, text, htext, room, rest, hrest
  | .range _ _ _, h, text, htext, room, rest, hrest
  | .regex _, h, text, htext, room, rest, hrest
  | .json _, h, text, htext, room, rest, hrest
  | .pointer _, h, text, htext, room, rest, hrest => by
    rw [show text = _ from htext]
    exact expression_atom_settles h (by trivial) room hrest

/-- The texts of the elements of a list are read one after the other in the same way. -/
theorem elements_settles : ∀ (items : List Value), Value.FormedAll items →
    ∀ (text : List Char), RenderedAll items text → ∀ (room fuel : Nat) (known : List Value)
      (gap close rest : List Char), Gap gap → Loose close →
        Settles (ListOnlyIfReadable known items) rest
          (elements true (expression true room) fuel known
            (gap ++ (text ++ (close ++ ')' :: rest))))
  | _, _, _, _, _, 0, _, _, _, _, _, _ => .of_failed rfl
  | [], _, text, htext, room, fuel + 1, known, gap, close, rest, hgap, hclose => by
    have htext : text = [] := htext
    rw [htext, List.nil_append, elements_close hgap hclose.gap]
    exact .of_ok rfl ⟨[], by rw [List.append_nil], fun _ => trivial⟩
  | value :: more, h, text, htext, room, fuel + 1, known, gap, close, rest, hgap, hclose => by
    obtain ⟨first, space, others, hfirst, hspace, hothers, rfl, hends⟩ := renderedAll_cons htext
    have hvalue := expression_settles value h.1 first hfirst room _
      (hends close (')' :: rest) hclose (.parenthesis rest))
    obtain ⟨c, tail, rfl, hc⟩ := rendered_begins h.1 hfirst
    rw [List.append_assoc, List.append_assoc, List.cons_append, elements_cons hgap hc]
    refine hvalue.bind fun found hequal => ?_
    refine (elements_settles more h.2 others hothers room fuel (found :: known) space close rest
      hspace hclose).imp ?_
    rintro _ ⟨items, rfl, hitems⟩
    refine ⟨found :: items, by simp, fun hall => ?_⟩
    rw [Value.beqAll, Bool.and_eq_true] at hall
    exact ⟨hequal hall.1, hitems hall.2⟩

end

/-! ### Source texts -/

/-- What equals a value that was read has the form of what reading gives. -/
theorem formed_of_reread {value found : Value} (hread : read value.display = .ok found)
    (hequal : (found == value) = true) : value.Formed := by
  obtain ⟨values, -, hall, hshape⟩ := readChars_produced hread
  have hproduced : found.Produced := by
    rcases hshape with rfl | ⟨-, rfl⟩
    · exact (hall found List.mem_cons_self).1
    · exact Value.producedAll_iff.mpr fun item hmem => (hall item hmem).1
  exact hproduced.formed_of_beq hequal

/-- A value can be written if its display is read as an equal value. -/
theorem readable_of_reread {value found : Value} (h : value.Formed)
    (hread : read value.display = .ok found) (hequal : (found == value) = true) :
    value.Readable := by
  obtain ⟨c, tail, hfirst, hc⟩ := rendered_begins h (rendered_displayChars value)
  have hskip : skipLayout true value.displayChars = c :: tail := by rw [hfirst, hc.skip]
  have hsettles := expression_settles value h _ (rendered_displayChars value) maxDepth [] .nil
  rw [List.append_nil, hfirst] at hsettles
  rw [read, readWith, Value.display, String.toList_ofList, readChars] at hread
  rcases hsettles with ⟨only, honly, hreadable⟩ | ⟨stop, hstop, -⟩
  · rw [expressions_cons hskip hc.parenthesis (commit_ok honly), expressions_nil rfl] at hread
    obtain rfl := Except.ok.inj hread
    exact hreadable hequal
  · cases hexpression : expression true maxDepth (c :: tail) with
    | ok result =>
      rw [hexpression] at hstop
      cases hstop
    | error stop =>
      rw [expressions_error hskip hc.parenthesis hexpression] at hread
      cases hread

/-- A value of any kind is read back from its display exactly when it can be written, its regular
expressions are closed and it is not nested too deeply. -/
theorem reads_back_iff (value : Value) :
    (∃ found, read value.display = .ok found ∧ (found == value) = true) ↔
      value.Readable ∧ RegexesClosed value ∧ value.nesting ≤ maxDepth := by
  constructor
  · rintro ⟨found, hread, hequal⟩
    have hformed := formed_of_reread hread hequal
    have hreadable := readable_of_reread hformed hread hequal
    refine ⟨hreadable, hformed.regexesClosed, Nat.le_of_not_lt fun hdeep => ?_⟩
    obtain ⟨error, herror, -⟩ :=
      (readChars_written hreadable hformed.regexesClosed (written_display value)).2 hdeep
    rw [read, readWith, herror] at hread
    cases hread
  · rintro ⟨hreadable, hclosed, hroom⟩
    exact (readChars_written hreadable hclosed (written_display value)).1 hroom

/-- What was read is read again from its display exactly when its numbers are finite, the texts of
its JSON literals are plain and it is not nested too deeply. -/
theorem reread_iff {value : Value} (h : value.Produced) :
    (∃ found, read value.display = .ok found ∧ (found == value) = true) ↔
      (∀ x ∈ value.numbers, x.isFinite = true) ∧
      (∀ text ∈ value.documentTexts, Json.IsPlainText text) ∧ value.nesting ≤ maxDepth := by
  rw [← and_assoc, ← Value.readable_iff value h, reads_back_iff,
    and_iff_right h.formed.regexesClosed]

/-- What reading gives, and when it is read again. A value that was read from a source text, with or
without comments, has no function in it and no number that is not one, and its names, paths, regular
expressions and documents have the form in which they are written. It is the one expression of the
source text, nested no deeper than expressions may be, or the list of its several expressions, none
of which is nested deeper. Its display is read as an equal value exactly when all its numbers are
finite, no text in its JSON literals has a control character other than line feed, carriage return
and tab, and the value itself is nested no deeper than expressions may be. -/
theorem read_value_reread (comments : Bool) (source : String) (value : Value)
    (h : readWith comments source = .ok value) :
    value.Produced ∧
    (∃ values, expressions comments source.toList (source.toList.length + 1) [] source.toList =
        .ok values ∧ (∀ item ∈ values, item.nesting ≤ maxDepth) ∧
      (values = [value] ∧ value.nesting ≤ maxDepth ∨
        2 ≤ values.length ∧ value = .list values ∧ value.nesting ≤ maxDepth + 1)) ∧
    ((∃ found, read value.display = .ok found ∧ (found == value) = true) ↔
      (∀ x ∈ value.numbers, x.isFinite = true) ∧
      (∀ text ∈ value.documentTexts, Json.IsPlainText text) ∧ value.nesting ≤ maxDepth) := by
  obtain ⟨values, hvalues, hall, hshape⟩ := readChars_produced h
  have hnesting : ∀ item ∈ values, item.nesting ≤ maxDepth := fun item hmem => (hall item hmem).2
  have hproduced : value.Produced := by
    rcases hshape with rfl | ⟨-, rfl⟩
    · exact (hall value List.mem_cons_self).1
    · exact Value.producedAll_iff.mpr fun item hmem => (hall item hmem).1
  refine ⟨hproduced, ⟨values, hvalues, hnesting, ?_⟩, reread_iff hproduced⟩
  rcases hshape with rfl | ⟨hseveral, rfl⟩
  · exact .inl ⟨rfl, hnesting value List.mem_cons_self⟩
  · exact .inr ⟨hseveral, rfl, Nat.succ_le_succ (Value.nestingAll_le_iff.mpr hnesting)⟩

end AnyEngine

/-- A number too large for the numbers of the language is read, and it is displayed as a word. -/
theorem read_value_reread_of_infinite :
    readWith false "a 1e999" = .ok (.list [.sym "a", .num (1.0 / 0.0)]) ∧
      ¬ ∃ found, read (Value.list [.sym "a", .num (1.0 / 0.0)]).display = .ok found ∧
        (found == .list [.sym "a", .num (1.0 / 0.0)]) = true := by
  have hread : readWith false "a 1e999" = .ok (.list [.sym "a", .num (1.0 / 0.0)]) := by rfl
  have hinfinite : (1.0 / 0.0 : Float).isFinite = false := by decide +kernel
  refine ⟨hread, fun hagain => ?_⟩
  have hfinite := ((read_value_reread false _ _ hread).2.2.mp hagain).1 (1.0 / 0.0)
    (List.mem_singleton.mpr rfl)
  rw [hinfinite] at hfinite
  cases hfinite

end Reader

end ShapeLisp
