import ShapeLisp.Proofs.Reader.RoundTrip

/-!
# What reading gives

Reading gives only some of all values: no functions, no number that is not one, and names, paths,
regular expressions and documents of a certain form. Each scanner is described by what it yields,
whatever the text is, and a scanner that is made of others yields what they do.

For the names this takes the order of the readings into account. A symbol is read where the readings
before it were declined, so its name is neither the text of a number nor that of a range, and it
starts with a slash only where neither a pointer nor a regular expression could be read.
-/

namespace ShapeLisp

open ShapeLisp.Text ShapeLisp.Number

/-! ### Values that reading can give -/

namespace Json

/-- All items together are given when each is. -/
theorem producedItems_iff {items : List Json} :
    ProducedItems items ↔ ∀ item ∈ items, item.Produced := by
  induction items with
  | nil => simp [ProducedItems]
  | cons item rest ih => rw [ProducedItems, ih, List.forall_mem_cons]

/-- All members together are given when each is. -/
theorem producedMembers_iff {members : List (String × Json)} :
    ProducedMembers members ↔ ∀ member ∈ members, member.2.Produced := by
  induction members with
  | nil => simp [ProducedMembers]
  | cons member rest ih => rw [ProducedMembers, ih, List.forall_mem_cons]

/-- The items are nested as deeply as the most nested one. -/
theorem nestingItems_le_iff {items : List Json} {room : Nat} :
    nestingItems items ≤ room ↔ ∀ item ∈ items, item.nesting ≤ room := by
  induction items with
  | nil => simp [nestingItems]
  | cons item rest ih => rw [nestingItems, Nat.max_le, ih, List.forall_mem_cons]

/-- The members are nested as deeply as the most nested one. -/
theorem nestingMembers_le_iff {members : List (String × Json)} {room : Nat} :
    nestingMembers members ≤ room ↔ ∀ member ∈ members, member.2.nesting ≤ room := by
  induction members with
  | nil => simp [nestingMembers]
  | cons member rest ih => rw [nestingMembers, Nat.max_le, ih, List.forall_mem_cons]

/-- A document that reading can give in a room of so many levels. -/
def ProducedIn (room : Nat) (document : Json) : Prop :=
  document.Produced ∧ document.nesting ≤ room

end Json

namespace Value

variable [Regex.Engine]

mutual

/-- A value that reading can give: no functions, numbers that are numbers, and names, paths, regular
expressions and documents as they are written. -/
def Produced : Value → Prop
  | .nil => True
  | .bool _ => True
  | .num x => x.isNaN = false
  | .str _ => True
  | .sym name => Reader.IsSymbolName name.toList
  | .list items => ProducedAll items
  | .quoted inner => Produced inner
  | .range start stop step =>
    start.isNaN = false ∧ stop.isNaN = false ∧ ∀ x ∈ step, x.isNaN = false
  | .regex literal =>
    Reader.IsRegexLiteral literal ∧ Reader.escapesClosed false literal.source.toList = true
  | .json document => document.IsContainer ∧ document.Produced
  | .pointer path => Reader.IsPointerPath path.toList
  | .builtin _ => False
  | .closure _ _ _ _ => False

/-- Reading can give every item of a list. -/
def ProducedAll : List Value → Prop
  | [] => True
  | item :: rest => Produced item ∧ ProducedAll rest

end

/-- All items together are given when each is. -/
theorem producedAll_iff {items : List Value} :
    ProducedAll items ↔ ∀ item ∈ items, item.Produced := by
  induction items with
  | nil => simp [ProducedAll]
  | cons item rest ih => rw [ProducedAll, ih, List.forall_mem_cons]

/-- The items are nested as deeply as the most nested one. -/
theorem nestingAll_le_iff {items : List Value} {room : Nat} :
    nestingAll items ≤ room ↔ ∀ item ∈ items, item.nesting ≤ room := by
  induction items with
  | nil => simp [nestingAll]
  | cons item rest ih => rw [nestingAll, Nat.max_le, ih, List.forall_mem_cons]

/-- A value that reading can give in a room of so many levels. -/
def ProducedIn (room : Nat) (value : Value) : Prop :=
  value.Produced ∧ value.nesting ≤ room

end Value

namespace Reader

/-! ### What scanners yield -/

/-- Whatever the scanner reads is good. -/
def Yields {α : Type} (scanner : Scanner α) (good : α → Prop) : Prop :=
  ∀ text found rest, scanner text = .ok (found, rest) → good found

section Yields

variable {α β : Type} {first second : Scanner α} {good : α → Prop} {text : List Char}

/-- What one of two readings gives is given by the first, or by the second where the first was
declined. -/
theorem either_ok {result : α × List Char} (h : either first second text = .ok result) :
    first text = .ok result ∨ Declines first text ∧ second text = .ok result := by
  rw [either] at h
  split at h
  · next stop hstop =>
    split at h
    · cases h
    · next hopen => exact .inr ⟨⟨stop, hstop, Bool.eq_false_iff.mpr hopen⟩, h⟩
  · next found hfound =>
    rw [hfound]
    exact .inl h

/-- A result that is changed comes from a result. -/
theorem mapResult_ok {f : α → β} {outcome : Except Stop (α × List Char)} {found : β}
    {rest : List Char} (h : mapResult f outcome = .ok (found, rest)) :
    ∃ inner, outcome = .ok (inner, rest) ∧ found = f inner := by
  cases outcome with
  | error stop => cases h
  | ok result =>
    obtain ⟨rfl, rfl⟩ := Prod.mk.inj (Except.ok.inj h)
    exact ⟨result.1, rfl, rfl⟩

/-- Being committed gives no other result. -/
theorem commit_ok {result : α} {outcome : Except Stop α} (h : commit outcome = .ok result) :
    outcome = .ok result := by
  cases outcome with
  | error stop => cases h
  | ok found => exact h

/-- A sequence that gives a result does so in both its parts. -/
theorem bind_ok {outcome : Except Stop α} {next : α → Except Stop β} {result : β}
    (h : outcome >>= next = .ok result) :
    ∃ found, outcome = .ok found ∧ next found = .ok result := by
  cases outcome with
  | error stop => cases h
  | ok found => exact ⟨found, rfl, h⟩

/-- Two readings yield what each does. -/
theorem Yields.either (hfirst : Yields first good) (hsecond : Yields second good) :
    Yields (Reader.either first second) good := by
  intro text found rest h
  rcases either_ok h with h | ⟨-, h⟩
  · exact hfirst text found rest h
  · exact hsecond text found rest h

/-- A result may be changed. -/
theorem Yields.mapResult {f : α → β} {goal : β → Prop} (h : Yields first good)
    (hgoal : ∀ found, good found → goal (f found)) :
    Yields (fun text => Reader.mapResult f (first text)) goal := by
  intro text found rest hfound
  obtain ⟨inner, hinner, rfl⟩ := mapResult_ok hfound
  exact hgoal inner (h text inner rest hinner)

/-- Every scanner yields something. -/
theorem yields_true (scanner : Scanner α) : Yields scanner fun _ => True :=
  fun _ _ _ _ => trivial

end Yields

/-! ### Tokens -/

/-- What meets the demand that a token ends prolongs no numeral. -/
theorem endsNumeral_of_tokenEnd {rest : List Char} (h : tokenEnd rest = .ok ()) :
    EndsNumeral rest := by
  cases rest with
  | nil => exact .nil
  | cons c tail =>
    have hc := isSymbolChar_of_isDelimiter (tokenEnd_sound h c tail rfl)
    have hne : ∀ d, isSymbolChar d = true → c ≠ d :=
      fun d hd => (ne_of_isSymbolChar hd hc).symm
    refine .cons ⟨?_, hne 'e' (by decide +kernel), hne 'E' (by decide +kernel)⟩
      (hne '.' (by decide +kernel)) tail
    apply Bool.eq_false_iff.mpr
    intro hdigit
    exact hne c (isSymbolChar_of_isAsciiDigit hdigit) rfl

/-- A scanner that declines a text has no result for it. -/
theorem Declines.not_ok {α : Type} {scanner : Scanner α} {text : List Char}
    (h : Declines scanner text) (result : α × List Char) : scanner text ≠ .ok result := by
  obtain ⟨stop, hstop, -⟩ := h
  rw [hstop]
  exact fun hok => nomatch hok

/-- A numeral is read as a number. -/
theorem numeral_yields : Yields numeral fun x => x.isNaN = false := by
  intro text x rest h
  rw [numeral] at h
  split at h
  · next found left hscan =>
    obtain ⟨rfl, -⟩ := Prod.mk.inj (Except.ok.inj h)
    exact isNaN_ofDecimal ..
  · cases h

/-- The step of a range is a number. -/
theorem rangeStep_yields (text : List Char) : ∀ x ∈ (rangeStep text).1, x.isNaN = false := by
  unfold rangeStep
  split
  · split
    · rintro x ⟨⟩
      exact isNaN_ofDecimal ..
    · exact fun x hx => nomatch hx
  · exact fun x hx => nomatch hx

/-- A source that is split off has its slashes escaped and its escapes closed. -/
theorem splitRegex_sound {escaped : Bool} {text source rest : List Char}
    (h : splitRegex escaped text = some (source, rest)) :
    slashesEscaped escaped source = true ∧ escapesClosed escaped source = true := by
  induction text generalizing escaped source with
  | nil =>
    cases escaped with
    | true => cases h
    | false => cases h
  | cons c more ih =>
    cases escaped with
    | true =>
      obtain ⟨⟨tail, left⟩, htail, heq⟩ := Option.map_eq_some_iff.mp h
      obtain ⟨rfl, rfl⟩ := Prod.mk.inj heq
      obtain ⟨hslashes, hclosed⟩ := ih htail
      exact ⟨hslashes, hclosed⟩
    | false =>
      rw [splitRegex] at h
      split at h
      · obtain ⟨rfl, -⟩ := Prod.mk.inj (Option.some.inj h)
        exact ⟨rfl, rfl⟩
      · next hslash =>
        obtain ⟨⟨tail, left⟩, htail, heq⟩ := Option.map_eq_some_iff.mp h
        obtain ⟨rfl, rfl⟩ := Prod.mk.inj heq
        obtain ⟨hslashes, hclosed⟩ := ih htail
        exact ⟨by rw [slashesEscaped, hslashes, bne_iff_ne.mpr hslash, Bool.and_self], hclosed⟩

/-- A source that is split off begins like the text. -/
theorem head?_splitRegex {text source rest : List Char} (hfirst : text.head?.any startsRegex = true)
    (h : splitRegex false text = some (source, rest)) :
    source.head?.any startsRegex = true := by
  cases text with
  | nil => cases hfirst
  | cons c more =>
    rw [splitRegex] at h
    split at h
    · next hslash =>
      rw [hslash, List.head?_cons, Option.any_some] at hfirst
      exact absurd hfirst (by decide)
    · obtain ⟨⟨tail, left⟩, -, heq⟩ := Option.map_eq_some_iff.mp h
      obtain ⟨rfl, -⟩ := Prod.mk.inj heq
      exact hfirst

section Values

variable [Regex.Engine]

/-- The spelling of a numeral is read as the number it denotes where the token ends. -/
theorem number_of_spells {numeral : Numeral} {text rest : List Char} (h : numeral.Spells text)
    (hrest : tokenEnd rest = .ok ()) : number (text ++ rest) = .ok (.num numeral.value, rest) := by
  have hnumeral := numeral_append h (endsNumeral_of_tokenEnd hrest)
  simp only [number, hnumeral, bind, Except.bind, hrest]
  rfl

/-- The text of a range is read as the range it spells where the token ends. -/
theorem range_of_spells {start stop : Float} {step : Option Float} {text rest : List Char}
    (h : SpellsRange start stop step text) (hrest : tokenEnd rest = .ok ()) :
    range (text ++ rest) = .ok (.range start stop step, rest) := by
  have hends := endsNumeral_of_tokenEnd hrest
  cases h with
  | span hstart hstop =>
    have hstep : rangeStep rest = (none, rest) := by
      rcases rangeStep_cases rest with hstep | ⟨step, spelling, left, -, -, hslash⟩
      · exact hstep
      · exact absurd (tokenEnd_sound hrest _ _ hslash) (by decide +kernel)
    simpa using range_span hstart hstop hends hstep hrest
  | @step start stop step startText stopText stepText hstart hstop hstep =>
    have hslashes : rangeStep ('/' :: '/' :: (stepText ++ rest)) = (some step.value, rest) := by
      rw [rangeStep, scanNumeral_append hstep hends]
    have hslash : EndsNumeral ('/' :: '/' :: (stepText ++ rest)) :=
      .cons (by decide) (by decide) _
    simpa using range_span hstart hstop hslash hslashes hrest

/-- What is read as a word: its name, without what follows. -/
theorem symbol_sound {text rest : List Char} {value : Value}
    (h : symbol text = .ok (value, rest)) :
    ∃ c tail, text = c :: tail ++ rest ∧ value = wordValue (c :: tail) ∧
      (∀ d ∈ c :: tail, isSymbolChar d = true) ∧ isAsciiDigit c = false ∧
      tokenEnd rest = .ok () := by
  unfold symbol at h
  split at h
  · cases h
  · next c tail left hspan =>
    obtain ⟨hall, htext⟩ := span_sound hspan
    split at h
    · cases h
    · next hdigit =>
      rcases tokenEnd_cases left with hend | ⟨place, hend⟩
      · rw [hend] at h
        obtain ⟨rfl, rfl⟩ := Prod.mk.inj (Except.ok.inj h)
        exact ⟨c, tail, htext, rfl, hall, Bool.eq_false_iff.mpr hdigit, hend⟩
      · rw [hend] at h
        cases h

/-- After two slashes a character that ends no token begins the path of a pointer. -/
theorem pointer_of_path {c : Char} (hc : isDelimiter c = false) (tail : List Char) :
    ∃ result, pointer ('/' :: '/' :: c :: tail) = .ok result := by
  have hspan : (c :: tail).span (!isDelimiter ·) =
      (c :: tail.takeWhile (!isDelimiter ·), tail.dropWhile (!isDelimiter ·)) := by
    rw [List.span_eq_takeWhile_dropWhile, List.takeWhile_cons_of_pos (by rw [hc]; rfl),
      List.dropWhile_cons_of_pos (by rw [hc]; rfl)]
  exact ⟨_, by rw [pointer, hspan]⟩

/-- A slash and a character that may start a regular expression leave no other reading. -/
theorem regex_not_declines {c : Char} (hc : startsRegex c = true) (tail : List Char) :
    ¬ Declines regex ('/' :: c :: tail) := by
  rintro ⟨stop, hstop, hopen⟩
  rw [regex, if_pos (by exact hc)] at hstop
  split at hstop
  · obtain rfl := Except.error.inj hstop
    cases hopen
  · next source rest hsplit =>
    dsimp only at hstop
    rcases tokenEnd_cases (rest.span isAsciiLetter).2 with hend | ⟨place, hend⟩
    · simp only [hend, commit, bind, Except.bind] at hstop
      split at hstop
      · cases hstop
      · obtain rfl := Except.error.inj hstop
        cases hopen
    · rw [hend] at hstop
      obtain rfl := Except.error.inj hstop
      cases hopen

/-- A name that starts with a slash and was read neither as a pointer nor as a regular expression is
one slash or two. -/
theorem slashes_of_declines {tail rest : List Char}
    (hall : ∀ d ∈ '/' :: tail, isSymbolChar d = true)
    (hpointer : Declines pointer ('/' :: tail ++ rest))
    (hregex : Declines regex ('/' :: tail ++ rest)) :
    '/' :: tail = ['/'] ∨ '/' :: tail = ['/', '/'] := by
  cases tail with
  | nil => exact .inl rfl
  | cons second more =>
    have hsymbol : isSymbolChar second = true := hall second (by simp)
    by_cases hsecond : second = '/'
    · subst hsecond
      cases more with
      | nil => exact .inr rfl
      | cons third others =>
        have hthird : isDelimiter third = false := by
          apply Bool.eq_false_iff.mpr
          intro hdelimiter
          exact ne_of_isSymbolChar (hall third (by simp))
            (isSymbolChar_of_isDelimiter hdelimiter) rfl
        obtain ⟨result, hresult⟩ := pointer_of_path hthird (others ++ rest)
        exact absurd hresult (hpointer.not_ok result)
    · have hstarts : startsRegex second = true := by
        have hspace := (IsFirst.of_isSymbolChar hsymbol).whitespace
        have hclose : second ≠ ')' := ne_of_isSymbolChar hsymbol (by decide +kernel)
        simp only [startsRegex, hspace, Bool.not_false, Bool.true_and, Bool.and_eq_true,
          bne_iff_ne]
        exact ⟨hsecond, hclose⟩
      exact absurd hregex (regex_not_declines hstarts (more ++ rest))

/-- A word that is read where the other readings were declined. -/
theorem isWord_of_declines {c : Char} {tail rest : List Char}
    (hall : ∀ d ∈ c :: tail, isSymbolChar d = true) (hdigit : isAsciiDigit c = false)
    (hrest : tokenEnd rest = .ok ()) (hpointer : Declines pointer (c :: tail ++ rest))
    (hregex : Declines regex (c :: tail ++ rest)) (hrange : Declines range (c :: tail ++ rest))
    (hnumber : Declines number (c :: tail ++ rest)) : IsWord (c :: tail) where
  nonempty := List.cons_ne_nil c tail
  all := hall
  digit := by
    intro d more h
    obtain ⟨rfl, -⟩ := List.cons.inj h
    exact hdigit
  number := by
    intro h
    obtain ⟨numeral, hspells⟩ := h
    exact hnumber.not_ok _ (number_of_spells hspells hrest)
  range := by
    intro h
    obtain ⟨start, stop, step, hspells⟩ := isRangeText_iff.mp h
    exact hrange.not_ok _ (range_of_spells hspells hrest)
  slash := by
    intro more h
    obtain ⟨rfl, rfl⟩ := List.cons.inj h
    exact slashes_of_declines hall hpointer hregex

/-- A word is a literal or a symbol. -/
theorem wordValue_cases (name : List Char) :
    wordValue name = .nil ∨ (∃ value, wordValue name = .bool value) ∨
      wordValue name = .sym (String.ofList name) ∧ name ≠ ['n', 'i', 'l'] ∧
        name ≠ ['t', 'r', 'u', 'e'] ∧ name ≠ ['f', 'a', 'l', 's', 'e'] := by
  rw [wordValue]
  split
  · exact .inl rfl
  · next hnil =>
    split
    · exact .inr (.inl ⟨true, rfl⟩)
    · next htrue =>
      split
      · exact .inr (.inl ⟨false, rfl⟩)
      · next hfalse => exact .inr (.inr ⟨rfl, hnil, htrue, hfalse⟩)

/-- The value of a word is one that reading can give, and takes one level. -/
theorem IsWord.produced {name : List Char} (h : IsWord name) :
    (wordValue name).Produced ∧ (wordValue name).nesting = 1 := by
  rcases wordValue_cases name with hvalue | ⟨value, hvalue⟩ | ⟨hvalue, hliteral⟩
  · rw [hvalue]
    exact ⟨trivial, rfl⟩
  · rw [hvalue]
    exact ⟨trivial, rfl⟩
  · rw [hvalue, Value.Produced, String.toList_ofList]
    exact ⟨⟨h, hliteral⟩, rfl⟩

/-- A number is read. -/
theorem number_yields : Yields number fun value => value.Produced ∧ value.nesting = 1 := by
  intro text value rest h
  obtain ⟨⟨x, left⟩, hx, h⟩ := bind_ok h
  obtain ⟨-, -, h⟩ := bind_ok h
  obtain ⟨rfl, -⟩ := Prod.mk.inj (Except.ok.inj h)
  exact ⟨numeral_yields text x left hx, rfl⟩

/-- A range of numbers is read. -/
theorem range_yields : Yields range fun value => value.Produced ∧ value.nesting = 1 := by
  intro text value rest h
  obtain ⟨⟨start, afterStart⟩, hstart, h⟩ := bind_ok h
  obtain ⟨⟨_, afterPoints⟩, _, h⟩ := bind_ok h
  obtain ⟨⟨stop, afterStop⟩, hstop, h⟩ := bind_ok h
  obtain ⟨_, _, h⟩ := bind_ok h
  obtain ⟨rfl, -⟩ := Prod.mk.inj (Except.ok.inj h)
  exact ⟨⟨numeral_yields _ _ _ hstart, numeral_yields _ _ _ hstop, rangeStep_yields _⟩, rfl⟩

/-- A pointer is read with its path. -/
theorem pointer_yields : Yields pointer fun value => value.Produced ∧ value.nesting = 1 := by
  intro text value rest h
  unfold pointer at h
  split at h
  · next path =>
    split at h
    · cases h
    · next name left hempty hspan =>
      obtain ⟨hall, -⟩ := span_sound hspan
      obtain ⟨rfl, -⟩ := Prod.mk.inj (Except.ok.inj h)
      refine ⟨?_, rfl⟩
      rw [Value.Produced, String.toList_ofList]
      refine ⟨name, rfl, hempty, fun c hc => ?_⟩
      simpa using hall c hc
  · cases h

/-- A literal has the source and the flags that it was made of. -/
theorem ofSource_ok {source flags : String} {literal : Regex}
    (h : Regex.ofSource source flags = .ok literal) :
    literal.source = source ∧ literal.flags = flags := by
  unfold Regex.ofSource at h
  split at h
  · obtain rfl := Except.ok.inj h
    exact ⟨rfl, rfl⟩
  · cases h

/-- A regular expression is read with its source and its flags. -/
theorem regex_yields : Yields regex fun value => value.Produced ∧ value.nesting = 1 := by
  intro text value rest h
  unfold regex at h
  split at h
  · next body =>
    split at h
    · next hfirst =>
      split at h
      · cases h
      · next source left hsplit =>
        obtain ⟨-, -, h⟩ := bind_ok h
        split at h
        · next literal hliteral =>
          obtain ⟨rfl, -⟩ := Prod.mk.inj (Except.ok.inj h)
          obtain ⟨hsource, hflags⟩ := ofSource_ok hliteral
          obtain ⟨hslashes, hclosed⟩ := splitRegex_sound hsplit
          have hletters := (span_sound (show left.span isAsciiLetter = (_, _) from rfl)).1
          refine ⟨⟨⟨?_, ?_, ?_⟩, ?_⟩, rfl⟩
          · rw [hsource, String.toList_ofList]
            exact head?_splitRegex hfirst hsplit
          · rw [hsource, String.toList_ofList]
            exact hslashes
          · rw [hflags, String.toList_ofList]
            exact hletters
          · rw [hsource, String.toList_ofList]
            exact hclosed
        · cases h
    · cases h
  · cases h

/-- Every token is a value that reading can give. A word is reached after all other readings were
declined. -/
theorem token_yields : Yields token fun value => value.Produced ∧ value.nesting = 1 := by
  intro text value rest h
  rcases either_ok h with h | ⟨-, h⟩
  · obtain ⟨content, -, rfl⟩ := mapResult_ok h
    exact ⟨trivial, rfl⟩
  rcases either_ok h with h | ⟨hpointer, h⟩
  · exact pointer_yields text value rest h
  rcases either_ok h with h | ⟨hregex, h⟩
  · exact regex_yields text value rest h
  rcases either_ok h with h | ⟨hrange, h⟩
  · exact range_yields text value rest h
  rcases either_ok h with h | ⟨hnumber, h⟩
  · exact number_yields text value rest h
  obtain ⟨c, tail, rfl, rfl, hall, hdigit, hend⟩ := symbol_sound h
  exact (isWord_of_declines hall hdigit hend hpointer hregex hrange hnumber).produced

end Values

/-! ### JSON literals -/

/-- The document of a number is one that reading can give. -/
theorem producedIn_ofNumber (x : Float) (room : Nat) : (Json.ofNumber x).ProducedIn room := by
  cases hx : Json.ofNumber x with
  | null => exact ⟨trivial, Nat.zero_le room⟩
  | int n => exact ⟨⟨x, hx⟩, Nat.zero_le room⟩
  | float y => exact ⟨⟨x, hx⟩, Nat.zero_le room⟩
  | _ =>
    rw [Json.ofNumber] at hx
    split at hx
    · cases hx
    · split at hx <;> cases hx

/-- The document of a bare word is one that reading can give. -/
theorem producedIn_wordDocument (word : List Char) (room : Nat) :
    (wordDocument word).ProducedIn room := by
  rw [wordDocument]
  split
  · exact ⟨trivial, Nat.zero_le room⟩
  · split
    · exact ⟨trivial, Nat.zero_le room⟩
    · split <;> exact ⟨trivial, Nat.zero_le room⟩

/-- A document is read in the room that there is for containers. -/
theorem document_yields {inner : Scanner Json} {room : Nat}
    (h : Yields inner (Json.ProducedIn room)) : Yields (document inner) (Json.ProducedIn room) := by
  have hnumber : Yields numberDocument (Json.ProducedIn room) := by
    intro text found rest hfound
    obtain ⟨⟨x, left⟩, -, hfound⟩ := bind_ok hfound
    obtain ⟨_, _, hfound⟩ := bind_ok hfound
    obtain ⟨rfl, -⟩ := Prod.mk.inj (Except.ok.inj hfound)
    exact producedIn_ofNumber x room
  have hstring : Yields (fun text => mapResult Json.str (stringText text)) (Json.ProducedIn room) :=
    (yields_true stringText).mapResult fun content _ => ⟨trivial, Nat.zero_le room⟩
  have hword : Yields (fun text => mapResult wordDocument (bareWord text)) (Json.ProducedIn room) :=
    (yields_true bareWord).mapResult fun word _ => producedIn_wordDocument word room
  intro text found rest hfound
  exact h.either (hstring.either (hnumber.either hword)) _ found rest hfound

/-- The items of an array are read one after the other. -/
theorem arrayItems_yields {item : Scanner Json} {room : Nat}
    (h : Yields item (Json.ProducedIn room)) (fuel : Nat) {known : List Json}
    (hknown : ∀ document ∈ known, document.ProducedIn room) :
    Yields (arrayItems item fuel known) fun document =>
      document.IsContainer ∧ document.ProducedIn (room + 1) := by
  induction fuel generalizing known with
  | zero =>
    intro text found rest hfound
    cases hfound
  | succ fuel ih =>
    intro text found rest hfound
    rw [arrayItems] at hfound
    split at hfound
    · obtain ⟨rfl, -⟩ := Prod.mk.inj (Except.ok.inj hfound)
      have hall : ∀ document ∈ known.reverse, document.ProducedIn room :=
        fun document hmem => hknown document (List.mem_reverse.mp hmem)
      refine ⟨trivial, Json.producedItems_iff.mpr fun document hmem => (hall document hmem).1, ?_⟩
      exact Nat.succ_le_succ (Json.nestingItems_le_iff.mpr fun document hmem =>
        (hall document hmem).2)
    · obtain ⟨⟨document, left⟩, hdocument, hfound⟩ := bind_ok hfound
      have hgood := h _ document left (commit_ok hdocument)
      exact ih (List.forall_mem_cons.mpr ⟨hgood, hknown⟩) _ found rest hfound

/-- The members of an object are read one after the other and put in order. -/
theorem objectMembers_yields {item : Scanner Json} {room : Nat}
    (h : Yields item (Json.ProducedIn room)) (fuel : Nat) {known : Keyed Json}
    (hsorted : known.Sorted) (hknown : ∀ member ∈ known, member.2.ProducedIn room) :
    Yields (objectMembers item fuel known) fun document =>
      document.IsContainer ∧ document.ProducedIn (room + 1) := by
  induction fuel generalizing known with
  | zero =>
    intro text found rest hfound
    cases hfound
  | succ fuel ih =>
    intro text found rest hfound
    rw [objectMembers] at hfound
    split at hfound
    · obtain ⟨rfl, -⟩ := Prod.mk.inj (Except.ok.inj hfound)
      refine ⟨trivial, ⟨hsorted, Json.producedMembers_iff.mpr fun member hmem =>
        (hknown member hmem).1⟩, ?_⟩
      exact Nat.succ_le_succ (Json.nestingMembers_le_iff.mpr fun member hmem =>
        (hknown member hmem).2)
    · obtain ⟨⟨name, afterName⟩, _, hfound⟩ := bind_ok hfound
      obtain ⟨⟨_, afterColon⟩, _, hfound⟩ := bind_ok hfound
      obtain ⟨⟨document, left⟩, hdocument, hfound⟩ := bind_ok hfound
      have hgood := h _ document left (commit_ok hdocument)
      refine ih (hsorted.insert name document) (fun member hmem => ?_) _ found rest hfound
      rcases Keyed.eq_or_mem_of_mem_insert hmem with rfl | hold
      · exact hgood
      · exact hknown member hold

/-- An object or an array is read in the room that there is. -/
theorem container_yields (room : Nat) :
    Yields (container room) fun document => document.IsContainer ∧ document.ProducedIn room := by
  induction room with
  | zero =>
    intro text found rest hfound
    unfold container at hfound
    split at hfound <;> cases hfound
  | succ room ih =>
    have hitem : Yields (document (container room)) (Json.ProducedIn room) :=
      document_yields fun text found rest hfound => (ih text found rest hfound).2
    have hsorted : Keyed.Sorted ([] : Keyed Json) := List.Pairwise.nil
    intro text found rest hfound
    unfold container at hfound
    split at hfound
    · exact objectMembers_yields hitem _ hsorted (List.forall_mem_nil _) _ found rest hfound
    · exact arrayItems_yields hitem _ (List.forall_mem_nil _) _ found rest hfound
    · cases hfound

/-! ### Expressions -/

variable [Regex.Engine]

/-- The elements of a list are read one after the other. -/
theorem elements_yields {comments : Bool} {element : Scanner Value} {room : Nat}
    (h : Yields element (Value.ProducedIn room)) (fuel : Nat) {known : List Value}
    (hknown : ∀ value ∈ known, value.ProducedIn room) :
    Yields (elements comments element fuel known) (Value.ProducedIn (room + 1)) := by
  induction fuel generalizing known with
  | zero =>
    intro text found rest hfound
    cases hfound
  | succ fuel ih =>
    intro text found rest hfound
    rw [elements] at hfound
    split at hfound
    · obtain ⟨rfl, -⟩ := Prod.mk.inj (Except.ok.inj hfound)
      have hall : ∀ value ∈ known.reverse, value.ProducedIn room :=
        fun value hmem => hknown value (List.mem_reverse.mp hmem)
      refine ⟨Value.producedAll_iff.mpr fun value hmem => (hall value hmem).1, ?_⟩
      exact Nat.succ_le_succ (Value.nestingAll_le_iff.mpr fun value hmem => (hall value hmem).2)
    · obtain ⟨⟨value, left⟩, hvalue, hfound⟩ := bind_ok hfound
      have hgood := h _ value left (commit_ok hvalue)
      exact ih (List.forall_mem_cons.mpr ⟨hgood, hknown⟩) _ found rest hfound

/-- An expression is a value that reading can give in the room that there is. -/
theorem expression_yields (comments : Bool) (room : Nat) :
    Yields (expression comments room) (Value.ProducedIn room) := by
  induction room with
  | zero =>
    intro text found rest hfound
    cases hfound
  | succ room ih =>
    have hquotation : Yields (quotation (expression comments room))
        (Value.ProducedIn (room + 1)) := by
      intro text found rest hfound
      unfold quotation at hfound
      split at hfound
      · obtain ⟨inner, hinner, rfl⟩ := mapResult_ok hfound
        obtain ⟨hproduced, hnesting⟩ := ih _ inner rest (commit_ok hinner)
        exact ⟨hproduced, Nat.succ_le_succ hnesting⟩
      · cases hfound
    have hlist : Yields (parenthesized comments (expression comments room))
        (Value.ProducedIn (room + 1)) := by
      intro text found rest hfound
      unfold parenthesized at hfound
      split at hfound
      · exact elements_yields ih _ (List.forall_mem_nil _) _ found rest hfound
      · cases hfound
    have hjson : Yields (fun text => mapResult Value.json (container (room + 1) text))
        (Value.ProducedIn (room + 1)) :=
      (container_yields (room + 1)).mapResult fun document hdocument =>
        ⟨⟨hdocument.1, hdocument.2.1⟩, hdocument.2.2⟩
    have htoken : Yields token (Value.ProducedIn (room + 1)) := by
      intro text found rest hfound
      obtain ⟨hproduced, hnesting⟩ := token_yields text found rest hfound
      exact ⟨hproduced, by omega⟩
    intro text found rest hfound
    exact hquotation.either (hlist.either (hjson.either htoken)) _ found rest hfound

/-! ### Source texts -/

/-- The expressions of a source text are values that reading can give. -/
theorem expressions_produced {comments : Bool} {source : List Char} {fuel : Nat}
    {known : List Value} {text : List Char} {values : List Value}
    (hknown : ∀ value ∈ known, value.ProducedIn maxDepth)
    (h : expressions comments source fuel known text = .ok values) :
    ∀ value ∈ values, value.ProducedIn maxDepth := by
  have hall : ∀ value ∈ known.reverse, value.ProducedIn maxDepth :=
    fun value hmem => hknown value (List.mem_reverse.mp hmem)
  induction fuel generalizing known text with
  | zero => exact Except.ok.inj h ▸ hall
  | succ fuel ih =>
    rw [expressions] at h
    split at h
    · exact Except.ok.inj h ▸ hall
    · cases h
    · split at h
      · next value rest hvalue =>
        have hgood := expression_yields comments maxDepth _ value rest hvalue
        have hmore := List.forall_mem_cons.mpr ⟨hgood, hknown⟩
        exact ih hmore h fun found hmem => hmore found (List.mem_reverse.mp hmem)
      · cases h

/-- What a source text is read as: its one expression, or the list of its several ones. -/
theorem readChars_produced {comments : Bool} {source : List Char} {value : Value}
    (h : readChars comments source = .ok value) :
    ∃ values, expressions comments source (source.length + 1) [] source = .ok values ∧
      (∀ item ∈ values, item.ProducedIn maxDepth) ∧
      (values = [value] ∨ 2 ≤ values.length ∧ value = .list values) := by
  rw [readChars] at h
  cases hvalues : expressions comments source (source.length + 1) [] source with
  | error error =>
    rw [hvalues] at h
    cases h
  | ok values =>
    have hgood := expressions_produced (List.forall_mem_nil _) hvalues
    rw [hvalues] at h
    refine ⟨values, rfl, hgood, ?_⟩
    cases values with
    | nil => cases h
    | cons first others =>
      cases others with
      | nil => exact .inl (by rw [Except.ok.inj h])
      | cons second more => exact .inr ⟨by simp, (Except.ok.inj h).symm⟩

end Reader

end ShapeLisp
