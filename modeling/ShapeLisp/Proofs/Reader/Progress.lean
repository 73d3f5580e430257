import ShapeLisp.Proofs.Reader.Lines
import ShapeLisp.Proofs.Text.Excerpt

/-!
# Reading advances and stays inside its text

Whatever the text is, a scanner that reads something leaves a proper end of the text, and one that
stops does so at a place of the text. The rules for scanners that are made of others carry both
facts at once: an answer stays inside a text, and what it leaves is shorter than a bound.

Since every item that a loop reads shortens the text, the loops of the reader end on every text.
And since every stop is at a place of the source, the position in an error is never inside a
character, and the character found is the one at the place.
-/

namespace ShapeLisp.Reader

open ShapeLisp.Text ShapeLisp.Number

/-! ### Answers inside a text -/

/-- The answer stays inside the text: what is left is an end of the text that is shorter than the
bound, and a stop is at a place of the text. A regular expression that does not compile stops
before the end. -/
def StaysIn {α : Type} (text : List Char) (bound : Nat) :
    Except Stop (α × List Char) → Prop
  | .ok (_, rest) => rest <:+ text ∧ rest.length < bound
  | .error stop =>
    stop.place <:+ text ∧ ∀ refusal, stop.trouble = .badRegex refusal → stop.place ≠ []

/-- The scanner advances: it leaves a proper end of its text, or stops at a place of it. -/
structure Advances {α : Type} (scanner : Scanner α) : Prop where
  /-- What is left is a proper end of the text. -/
  rest : ∀ text found rest, scanner text = .ok (found, rest) → rest <:+ text ∧ rest ≠ text
  /-- A stop is at a place of the text. -/
  place : ∀ text stop, scanner text = .error stop → stop.place <:+ text

/-- The scanner stays inside its text and leaves a shorter one. -/
def Shortens {α : Type} (scanner : Scanner α) : Prop :=
  ∀ text, StaysIn text text.length (scanner text)

/-- A scanner that leaves a shorter text advances. -/
theorem Shortens.advances {α : Type} {scanner : Scanner α} (h : Shortens scanner) :
    Advances scanner where
  rest text found rest hfound := by
    have hstays := h text
    rw [hfound] at hstays
    refine ⟨hstays.1, ?_⟩
    rintro rfl
    exact Nat.lt_irrefl _ hstays.2
  place text stop hstop := by
    have hstays := h text
    rw [hstop] at hstays
    exact hstays.1

section Answers

variable {α β : Type} {text place rest : List Char} {bound : Nat}
  {outcome : Except Stop (α × List Char)}

/-- A stop because of an unexpected character. -/
theorem staysIn_unexpected (h : place <:+ text) :
    StaysIn text bound (unexpected place : Except Stop (α × List Char)) :=
  ⟨h, fun _ htrouble => nomatch htrouble⟩

/-- A stop for good that is not about a regular expression. -/
theorem staysIn_failed {trouble : Trouble} (htrouble : ∀ refusal, trouble ≠ .badRegex refusal)
    (h : place <:+ text) :
    StaysIn text bound (failed trouble place : Except Stop (α × List Char)) :=
  ⟨h, fun refusal hregex => absurd hregex (htrouble refusal)⟩

/-- A stop for good where the text cannot go on. -/
theorem staysIn_failed_unexpected (h : place <:+ text) :
    StaysIn text bound (failed .unexpected place : Except Stop (α × List Char)) :=
  staysIn_failed (fun _ hregex => nomatch hregex) h

/-- A larger text and a larger bound. -/
theorem StaysIn.weaken {more : List Char} {larger : Nat} (h : StaysIn text bound outcome)
    (htext : text <:+ more) (hbound : bound ≤ larger) : StaysIn more larger outcome := by
  cases outcome with
  | ok found => exact ⟨h.1.trans htext, Nat.lt_of_lt_of_le h.2 hbound⟩
  | error stop => exact ⟨h.1.trans htext, h.2⟩

/-- A result may be changed. -/
theorem StaysIn.mapResult (h : StaysIn text bound outcome) (f : α → β) :
    StaysIn text bound (Reader.mapResult f outcome) := by
  cases outcome with
  | ok found => exact h
  | error stop => exact h

/-- Being committed moves no place. -/
theorem StaysIn.commit (h : StaysIn text bound outcome) :
    StaysIn text bound (Reader.commit outcome) := by
  cases outcome with
  | ok found => exact h
  | error stop => exact h

/-- What comes after a result leaves no more than the result did. -/
theorem StaysIn.bind {next : α × List Char → Except Stop (β × List Char)}
    (h : StaysIn text bound outcome)
    (hnext : ∀ found rest, outcome = .ok (found, rest) →
      StaysIn rest (rest.length + 1) (next (found, rest))) :
    StaysIn text bound (outcome >>= next) := by
  cases outcome with
  | ok found => exact (hnext found.1 found.2 rfl).weaken h.1 h.2
  | error stop => exact h

/-- The demand that a token ends leaves the text alone. -/
theorem staysIn_tokenEnd (found : α) (h : rest <:+ text) (hbound : rest.length < bound) :
    StaysIn text bound (tokenEnd rest >>= fun _ => .ok (found, rest)) := by
  cases rest with
  | nil => exact ⟨h, hbound⟩
  | cons c tail =>
    rw [tokenEnd]
    split
    · exact ⟨h, hbound⟩
    · exact staysIn_unexpected h

end Answers

section Scanners

variable {α β : Type} {first second : Scanner α}

/-- Two readings of the same text. -/
theorem Shortens.either (hfirst : Shortens first) (hsecond : Shortens second) :
    Shortens (Reader.either first second) := by
  intro text
  have hanswer := hfirst text
  rw [Reader.either]
  cases h : first text with
  | ok found =>
    rw [h] at hanswer
    exact hanswer
  | error stop =>
    rw [h] at hanswer
    dsimp only
    split
    · exact hanswer
    · exact hsecond text

/-- A scanner whose result is changed. -/
theorem Shortens.mapResult (h : Shortens first) (f : α → β) :
    Shortens fun text => Reader.mapResult f (first text) :=
  fun text => (h text).mapResult f

/-- A scanner that is committed. -/
theorem Shortens.commit (h : Shortens first) : Shortens fun text => Reader.commit (first text) :=
  fun text => (h text).commit

/-- A scanner after something was skipped. -/
theorem Shortens.skipping (h : Shortens first) {skip : List Char → List Char}
    (hskip : ∀ text, skip text <:+ text) : Shortens fun text => first (skip text) :=
  fun text => (h (skip text)).weaken (hskip text) (hskip text).length_le

/-- A shortening scanner leaves a shorter text. -/
theorem Shortens.length_lt (h : Shortens first) {text rest : List Char} {found : α}
    (hfound : first text = .ok (found, rest)) : rest.length < text.length := by
  have hstays := h text
  rw [hfound] at hstays
  exact hstays.2

end Scanners

/-! ### Tokens -/

/-- A numeral. -/
theorem numeral_shortens : Shortens numeral := by
  intro text
  rw [numeral]
  split
  · next found rest hscan =>
    obtain ⟨spelling, hspells, rfl⟩ := scanNumeral_sound hscan
    have hnonempty := List.length_pos_of_ne_nil (IsNumberText.ne_nil ⟨found, hspells⟩)
    exact ⟨List.suffix_append .., by rw [List.length_append]; omega⟩
  · exact staysIn_unexpected (List.suffix_refl _)

/-- The given characters are taken off the text. -/
theorem exactly_staysIn (expected text : List Char) :
    StaysIn text (text.length + 1) (exactly expected text) := by
  rcases exactly_cases expected text with ⟨rest, hrest, rfl⟩ | hstop
  · rw [hrest]
    exact ⟨List.suffix_append .., by rw [List.length_append]; omega⟩
  · rw [hstop]
    exact staysIn_unexpected (List.suffix_refl _)

/-- The step of a range is taken off the text. -/
theorem rangeStep_suffix (text : List Char) : (rangeStep text).2 <:+ text := by
  rcases rangeStep_cases text with hstep | ⟨step, spelling, rest, hstep, -, htext⟩
  · rw [hstep]
  · rw [hstep, htext]
    exact List.suffix_append ..

/-- A string after its opening quote. -/
theorem stringBody_shortens : Shortens stringBody := by
  intro text
  fun_induction stringBody text with
  | case1 => exact staysIn_failed_unexpected (List.suffix_refl _)
  | case2 => exact staysIn_failed_unexpected (List.nil_suffix)
  | case3 letter rest c hletter ih =>
    exact (ih.mapResult _).weaken ((List.suffix_cons ..).trans (List.suffix_cons ..))
      (by simp only [List.length_cons]; omega)
  | case4 letter rest hletter => exact staysIn_failed_unexpected (List.suffix_refl _)
  | case5 c rest hquote => exact ⟨List.suffix_cons .., by simp⟩
  | case6 c rest hbackslash hescape hquote ih =>
    exact (ih.mapResult _).weaken (List.suffix_cons ..) (by simp)

/-- The text of a string. -/
theorem stringText_shortens : Shortens stringText := by
  intro text
  unfold stringText
  split
  · next rest =>
    exact ((stringBody_shortens rest).mapResult _).weaken (List.suffix_cons ..) (by simp)
  · exact staysIn_unexpected (List.suffix_refl _)

/-- What is split off by its characters leaves the end of the text. -/
theorem span_suffix {p : Char → Bool} {text run rest : List Char} (h : text.span p = (run, rest))
    (hrun : run ≠ []) : rest <:+ text ∧ rest.length < text.length := by
  obtain ⟨-, rfl⟩ := span_sound h
  have hpos := List.length_pos_of_ne_nil hrun
  exact ⟨List.suffix_append .., by rw [List.length_append]; omega⟩

/-- A source that is split off is followed by its slash and what is left. -/
theorem splitRegex_text {escaped : Bool} {text source rest : List Char}
    (h : splitRegex escaped text = some (source, rest)) : text = source ++ '/' :: rest := by
  induction text generalizing escaped source with
  | nil => cases escaped <;> cases h
  | cons c more ih =>
    cases escaped with
    | true =>
      obtain ⟨⟨inner, left⟩, hinner, heq⟩ := Option.map_eq_some_iff.mp h
      obtain ⟨rfl, rfl⟩ := Prod.mk.inj heq
      rw [ih hinner, List.cons_append]
    | false =>
      rw [splitRegex] at h
      split at h
      · next hslash =>
        obtain ⟨rfl, rfl⟩ := Prod.mk.inj (Option.some.inj h)
        rw [hslash, List.nil_append]
      · obtain ⟨⟨inner, left⟩, hinner, heq⟩ := Option.map_eq_some_iff.mp h
        obtain ⟨rfl, rfl⟩ := Prod.mk.inj heq
        rw [ih hinner, List.cons_append]

section Values

variable [Regex.Engine]

/-- A number. -/
theorem number_shortens : Shortens number := by
  intro text
  refine (numeral_shortens text).bind fun x rest _ => ?_
  exact staysIn_tokenEnd _ (List.suffix_refl _) (Nat.lt_succ_self _)

/-- A range. -/
theorem range_shortens : Shortens range := by
  intro text
  refine (numeral_shortens text).bind fun start afterStart _ => ?_
  refine (exactly_staysIn _ afterStart).bind fun _ afterPoints _ => ?_
  refine ((numeral_shortens afterPoints).weaken (List.suffix_refl _) (Nat.le_succ _)).bind
    fun stop afterStop _ => ?_
  have hsuffix := rangeStep_suffix afterStop
  exact staysIn_tokenEnd _ hsuffix (Nat.lt_succ_of_le hsuffix.length_le)

/-- A symbol or a literal word. -/
theorem symbol_shortens : Shortens symbol := by
  intro text
  unfold symbol
  split
  · exact staysIn_unexpected (List.suffix_refl _)
  · next first others rest hspan =>
    obtain ⟨hsuffix, hlength⟩ := span_suffix hspan (List.cons_ne_nil _ _)
    split
    · exact staysIn_unexpected (List.suffix_refl _)
    · exact staysIn_tokenEnd _ hsuffix hlength

/-- A pointer. -/
theorem pointer_shortens : Shortens pointer := by
  intro text
  unfold pointer
  split
  · next path =>
    have hpath : path <:+ '/' :: '/' :: path := (List.suffix_cons ..).trans (List.suffix_cons ..)
    split
    · exact staysIn_unexpected hpath
    · next name rest hname hspan =>
      obtain ⟨hsuffix, hlength⟩ := span_suffix hspan hname
      exact ⟨hsuffix.trans hpath, Nat.lt_of_lt_of_le hlength hpath.length_le⟩
  · exact staysIn_unexpected (List.suffix_refl _)

/-- A regular expression. One that does not compile stops at its opening slash. -/
theorem regex_shortens : Shortens regex := by
  intro text
  unfold regex
  split
  · next body =>
    split
    · split
      · exact staysIn_failed_unexpected (List.nil_suffix)
      · next source rest hsplit =>
        have hflags : (rest.span isAsciiLetter).2 <:+ rest := by
          rw [List.span_eq_takeWhile_dropWhile]
          exact List.dropWhile_suffix _
        have hbody : rest <:+ '/' :: body := by
          rw [splitRegex_text hsplit]
          exact ⟨'/' :: source ++ ['/'], by simp⟩
        have hlength : (rest.span isAsciiLetter).2.length < ('/' :: body).length := by
          have hle := hflags.length_le
          rw [splitRegex_text hsplit]
          simp only [List.length_cons, List.length_append]
          omega
        rcases tokenEnd_cases (rest.span isAsciiLetter).2 with hend | ⟨place, hend⟩
        · simp only [hend, commit, bind, Except.bind]
          split
          · exact ⟨hflags.trans hbody, hlength⟩
          · exact ⟨List.suffix_refl _, fun _ _ => List.cons_ne_nil _ _⟩
        · have hplace := staysIn_tokenEnd () (hflags.trans hbody) hlength
          simp only [hend, bind, Except.bind] at hplace ⊢
          exact hplace
    · exact staysIn_unexpected (List.suffix_refl _)
  · exact staysIn_unexpected (List.suffix_refl _)

/-- A token. -/
theorem token_shortens : Shortens token :=
  .either (stringText_shortens.mapResult _) (.either pointer_shortens (.either regex_shortens
    (.either range_shortens (.either number_shortens symbol_shortens))))

end Values

/-! ### Loops -/

/-- A run of a loop over a text: round by round it goes on with another state and another text,
until a round gives the answer. A run has finitely many rounds, so a loop with a run ends. -/
inductive RunsTo {σ α : Type} (round : σ → List Char → (σ × List Char) ⊕ α) :
    σ → List Char → α → Prop where
  /-- A round that gives the answer. -/
  | done {state : σ} {text : List Char} {answer : α} (h : round state text = .inr answer) :
      RunsTo round state text answer
  /-- A round after which the loop goes on. -/
  | goes {state : σ} {text : List Char} {next : σ × List Char} {answer : α}
      (h : round state text = .inl next) (hnext : RunsTo round next.1 next.2 answer) :
      RunsTo round state text answer

/-- A loop has one answer. -/
theorem RunsTo.unique {σ α : Type} {round : σ → List Char → (σ × List Char) ⊕ α} {state : σ}
    {text : List Char} {answer other : α} (h : RunsTo round state text answer)
    (hother : RunsTo round state text other) : answer = other := by
  induction h with
  | done hround =>
    cases hother with
    | done hround' => exact Sum.inr.inj (hround.symm.trans hround')
    | goes hround' _ => cases hround.symm.trans hround'
  | goes hround _ ih =>
    cases hother with
    | done hround' => cases hround.symm.trans hround'
    | goes hround' hnext =>
      obtain rfl := Sum.inl.inj (hround.symm.trans hround')
      exact ih hnext

/-- A loop with fuel gives the answer of a run when it does what the rounds do, each round leaves a
shorter text and there is more fuel than text. -/
theorem runsTo_of_fuel {σ α : Type} {loop : Nat → σ → List Char → α}
    {round : σ → List Char → (σ × List Char) ⊕ α}
    (hloop : ∀ fuel state text, loop (fuel + 1) state text =
      (round state text).elim (fun next => loop fuel next.1 next.2) id)
    (hshorter : ∀ state text next, round state text = .inl next → next.2.length < text.length)
    {fuel : Nat} {state : σ} {text : List Char} (hfuel : text.length < fuel) :
    RunsTo round state text (loop fuel state text) := by
  induction fuel generalizing state text with
  | zero => exact absurd hfuel (Nat.not_lt_zero _)
  | succ fuel ih =>
    rw [hloop]
    cases hround : round state text with
    | inr answer => exact .done hround
    | inl next =>
      have hless := hshorter state text next hround
      exact .goes hround (ih (by omega))

/-- One round of a loop that reads items up to a closing mark. -/
def itemRound {σ ι α : Type} (before after : List Char → List Char) (mark : Char)
    (item : Scanner ι) (finish : σ → α) (add : σ → ι → σ) (state : σ) (text : List Char) :
    (σ × List Char) ⊕ Except Stop (α × List Char) :=
  if (before text).head? = some mark then .inr (.ok (finish state, (before text).tail))
  else
    match item (before text) with
    | .ok (found, rest) => .inl (add state found, after rest)
    | .error stop => .inr (.error stop)

namespace ReadsItems

variable {σ ι α : Type} {loop : Nat → σ → Scanner α} {before after : List Char → List Char}
  {mark : Char} {item : Scanner ι} {finish : σ → α} {add : σ → ι → σ}

/-- A loop goes on as its first round says. -/
theorem eq_itemRound (h : ReadsItems loop before after mark item finish add) (fuel : Nat)
    (state : σ) (text : List Char) :
    loop (fuel + 1) state text =
      (itemRound before after mark item finish add state text).elim
        (fun next => loop fuel next.1 next.2) id := by
  rw [itemRound]
  split
  · next hmark => exact h.closed fuel state text _ (List.eq_cons_of_mem_head? hmark)
  · next hmark =>
    have hopen : ∀ rest, before text ≠ mark :: rest :=
      fun rest htext => hmark (by rw [htext, List.head?_cons])
    rw [h.goes fuel state text hopen]
    cases item (before text) with
    | ok found => rfl
    | error stop => rfl

/-- A loop whose items shorten the text ends on every text. -/
theorem runsTo (h : ReadsItems loop before after mark item finish add) (hitem : Shortens item)
    (hbefore : ∀ text, before text <:+ text) (hafter : ∀ text, after text <:+ text) (state : σ)
    (text : List Char) :
    RunsTo (itemRound before after mark item finish add) state text
      (loop (text.length + 1) state text) := by
  refine runsTo_of_fuel h.eq_itemRound ?_ (Nat.lt_succ_self _)
  intro state text next hround
  unfold itemRound at hround
  split at hround
  · cases hround
  · split at hround
    · next found rest hfound =>
      rw [← Sum.inl.inj hround]
      calc (after rest).length
        _ ≤ rest.length := (hafter rest).length_le
        _ < (before text).length := hitem.length_lt hfound
        _ ≤ text.length := (hbefore text).length_le
    · cases hround

/-- A loop of shortening items leaves a shorter text. -/
theorem shortens (h : ReadsItems loop before after mark item finish add) (hitem : Shortens item)
    (hbefore : ∀ text, before text <:+ text) (hafter : ∀ text, after text <:+ text)
    (hempty : ∀ state text, loop 0 state text = failed .unexpected text) (fuel : Nat) (state : σ) :
    Shortens (loop fuel state) := by
  induction fuel generalizing state with
  | zero =>
    intro text
    rw [hempty]
    exact staysIn_failed_unexpected (List.suffix_refl _)
  | succ fuel ih =>
    intro text
    by_cases hclosed : ∃ rest, before text = mark :: rest
    · obtain ⟨rest, hrest⟩ := hclosed
      have hsuffix := hbefore text
      rw [hrest] at hsuffix
      rw [h.closed fuel state text rest hrest]
      exact ⟨(List.suffix_cons ..).trans hsuffix, hsuffix.length_le⟩
    · rw [h.goes fuel state text fun rest hrest => hclosed ⟨rest, hrest⟩]
      refine (hitem.skipping hbefore text).bind fun found rest _ => ?_
      have hdropped := hafter rest
      exact (ih _ (after rest)).weaken hdropped (Nat.le_succ_of_le hdropped.length_le)

end ReadsItems

/-! ### JSON literals -/

/-- Dropping a separator leaves the end of the text. -/
theorem dropSeparator_suffix (text : List Char) : dropSeparator text <:+ text := by
  have htrim : trimStart text <:+ text := List.dropWhile_suffix _
  unfold dropSeparator
  split
  · next rest hrest =>
    rw [hrest] at htrim
    exact (List.suffix_cons ..).trans htrim
  · exact htrim

/-- A bare word. -/
theorem bareWord_shortens : Shortens bareWord := by
  intro text
  unfold bareWord
  split
  · exact staysIn_unexpected (List.suffix_refl _)
  · next found hempty =>
    refine span_suffix (show text.span isWordChar = ((text.span isWordChar).1, _) from rfl) ?_
    exact fun hnil => hempty (text.span isWordChar).2 (by rw [← hnil])

/-- A number as a document. -/
theorem numberDocument_shortens : Shortens numberDocument := by
  intro text
  refine (numeral_shortens text).bind fun x rest _ => ?_
  cases rest with
  | nil => exact ⟨List.suffix_refl _, Nat.lt_succ_self _⟩
  | cons c tail =>
    dsimp only
    rw [documentEnd]
    split
    · exact ⟨List.suffix_refl _, Nat.lt_succ_self _⟩
    · exact staysIn_unexpected (List.suffix_refl _)

/-- A document whose containers shorten the text. -/
theorem document_shortens {inner : Scanner Json} (h : Shortens inner) :
    Shortens (document inner) :=
  (h.either ((stringText_shortens.mapResult _).either
    (numberDocument_shortens.either (bareWord_shortens.mapResult _)))).skipping
      fun _ => List.dropWhile_suffix _

/-- A member of an object. -/
theorem member_shortens {item : Scanner Json} (h : Shortens item) : Shortens (member item) := by
  have hkey : Shortens key :=
    (stringText_shortens.either (bareWord_shortens.mapResult _)).skipping
      fun _ => List.dropWhile_suffix _
  have hcolon : ∀ text, StaysIn text (text.length + 1) (colon text) := by
    intro text
    have hblank : text.dropWhile isBlank <:+ text := List.dropWhile_suffix _
    exact (exactly_staysIn _ _).weaken hblank (Nat.succ_le_succ hblank.length_le)
  intro text
  refine (hkey text).commit.bind fun name rest _ => ?_
  refine (hcolon rest).commit.bind fun _ rest _ => ?_
  refine ((h rest).commit.weaken (List.suffix_refl _) (Nat.le_succ _)).bind fun value rest _ => ?_
  exact ⟨List.suffix_refl _, Nat.lt_succ_self _⟩

/-- White space at the start is dropped. -/
theorem trimStart_suffix (text : List Char) : trimStart text <:+ text := List.dropWhile_suffix _

/-- An object or an array. -/
theorem container_shortens (room : Nat) : Shortens (container room) := by
  induction room with
  | zero =>
    intro text
    unfold container
    split
    · exact staysIn_failed (fun _ hregex => nomatch hregex) (List.suffix_refl _)
    · exact staysIn_failed (fun _ hregex => nomatch hregex) (List.suffix_refl _)
    · exact staysIn_unexpected (List.suffix_refl _)
  | succ room ih =>
    have hitem := document_shortens ih
    intro text
    unfold container
    split
    · next rest =>
      exact ((objectMembers_readsItems _).shortens (member_shortens hitem) trimStart_suffix
        dropSeparator_suffix (fun _ _ => rfl) _ _ rest).weaken (List.suffix_cons ..) (by simp)
    · next rest =>
      exact ((arrayItems_readsItems _).shortens hitem.commit trimStart_suffix
        dropSeparator_suffix (fun _ _ => rfl) _ _ rest).weaken (List.suffix_cons ..) (by simp)
    · exact staysIn_unexpected (List.suffix_refl _)

/-! ### Expressions -/

/-- Skipping layout leaves the end of the text. -/
theorem skipLayout_suffix (comments : Bool) (text : List Char) :
    skipLayout comments text <:+ text ∧ skipComment comments text <:+ text := by
  induction text with
  | nil => exact ⟨List.suffix_refl _, List.suffix_refl _⟩
  | cons c rest ih =>
    have hrest : rest <:+ c :: rest := List.suffix_cons ..
    rw [skipLayout, skipComment]
    constructor
    · split
      · exact ih.1.trans hrest
      · split
        · exact ih.2.trans hrest
        · exact List.suffix_refl _
    · split
      · exact ih.1.trans hrest
      · exact ih.2.trans hrest

variable [Regex.Engine]

/-- An expression. -/
theorem expression_shortens (comments : Bool) (room : Nat) :
    Shortens (expression comments room) := by
  induction room with
  | zero => exact fun text => staysIn_failed (fun _ hregex => nomatch hregex) (List.suffix_refl _)
  | succ room ih =>
    have hquotation : Shortens (quotation (expression comments room)) := by
      intro text
      unfold quotation
      split
      · next rest =>
        exact ((ih rest).commit.mapResult _).weaken (List.suffix_cons ..) (by simp)
      · exact staysIn_unexpected (List.suffix_refl _)
    have hlist : Shortens (parenthesized comments (expression comments room)) := by
      intro text
      unfold parenthesized
      split
      · next rest =>
        exact ((elements_readsItems comments _).shortens ih.commit
          (fun text => (skipLayout_suffix comments text).1) List.suffix_refl (fun _ _ => rfl)
          _ _ rest).weaken (List.suffix_cons ..) (by simp)
      · exact staysIn_unexpected (List.suffix_refl _)
    exact (hquotation.either (hlist.either
      (((container_shortens (room + 1)).mapResult _).either token_shortens))).skipping
        fun text => (skipLayout_suffix comments text).1

/-! ### The loops end -/

/-- One round of reading the elements of a list. -/
def listRound (comments : Bool) (element : Scanner Value) :
    List Value → List Char → (List Value × List Char) ⊕ Except Stop (Value × List Char) :=
  itemRound (skipLayout comments) id ')' (fun text => commit (element text))
    (fun known => .list known.reverse) fun known value => value :: known

/-- One round of reading the items of an array. -/
def arrayRound (item : Scanner Json) :
    List Json → List Char → (List Json × List Char) ⊕ Except Stop (Json × List Char) :=
  itemRound trimStart dropSeparator ']' (fun text => commit (item text))
    (fun items => .arr items.reverse) fun items document => document :: items

/-- One round of reading the members of an object. -/
def objectRound (item : Scanner Json) :
    Keyed Json → List Char → (Keyed Json × List Char) ⊕ Except Stop (Json × List Char) :=
  itemRound trimStart dropSeparator '\x7d' (member item) .obj
    fun members entry => Keyed.insert entry.1 entry.2 members

/-- One round of reading the expressions of a source text. -/
def sourceRound (comments : Bool) (source : List Char) (known : List Value) (text : List Char) :
    (List Value × List Char) ⊕ Except ParseError (List Value) :=
  match skipLayout comments text with
  | [] => .inr (.ok known.reverse)
  | ')' :: rest => .inr (.error (trailing source (')' :: rest)))
  | text =>
    match expression comments maxDepth text with
    | .ok (value, rest) => .inl (value :: known, rest)
    | .error stop => .inr (.error (stop.report source))

section SourceRounds

variable {comments : Bool} {source : List Char} {known : List Value} {text : List Char}

/-- Reading goes on as its first round says. -/
theorem expressions_eq_sourceRound (fuel : Nat) :
    expressions comments source (fuel + 1) known text =
      (sourceRound comments source known text).elim
        (fun next => expressions comments source fuel next.1 next.2) id := by
  rw [sourceRound]
  split
  · next hskip => exact expressions_nil hskip
  · next rest hskip =>
    rw [expressions, hskip]
    rfl
  · next hnil hclose =>
    obtain ⟨c, tail, hskip⟩ := List.exists_cons_of_ne_nil hnil
    have hc : c ≠ ')' := fun hc => hclose tail (hc ▸ hskip)
    rw [hskip]
    split
    · next value rest hread => exact expressions_cons hskip hc hread
    · next stop hstop => exact expressions_error hskip hc hstop

/-- A round that reads an expression leaves a shorter end of the text. -/
theorem sourceRound_shorter {next : List Value × List Char}
    (h : sourceRound comments source known text = .inl next) :
    next.2 <:+ text ∧ next.2.length < text.length := by
  have hskip := (skipLayout_suffix comments text).1
  unfold sourceRound at h
  split at h
  · cases h
  · cases h
  · split at h
    · next value rest hread =>
      have hstays := expression_shortens comments maxDepth (skipLayout comments text)
      rw [hread] at hstays
      rw [← Sum.inl.inj h]
      exact ⟨hstays.1.trans hskip, Nat.lt_of_lt_of_le hstays.2 hskip.length_le⟩
    · cases h

/-- Reading the expressions of a source text ends. -/
theorem expressions_runsTo :
    RunsTo (sourceRound comments source) known text
      (expressions comments source (text.length + 1) known text) :=
  runsTo_of_fuel (fun fuel _ _ => expressions_eq_sourceRound fuel)
    (fun _ _ _ hround => (sourceRound_shorter hround).2) (Nat.lt_succ_self _)

end SourceRounds

/-- Reading the elements of a list ends. -/
theorem elements_runsTo (comments : Bool) (room : Nat) (known : List Value) (text : List Char) :
    RunsTo (listRound comments (expression comments room)) known text
      (elements comments (expression comments room) (text.length + 1) known text) :=
  (elements_readsItems comments _).runsTo (expression_shortens comments room).commit
    (fun text => (skipLayout_suffix comments text).1) List.suffix_refl known text

/-! ### Places of errors -/

/-- The error points at a place of the source: its position is the number of bytes before the
place, and the character it found is the first one of the place. -/
def PointsAt (source place : List Char) (error : ParseError) : Prop :=
  ∃ before, source = before ++ place ∧
    error = .withContext error.kind error.message source (byteLength before) ∧
      error.found = place.head?

/-- Which kinds of errors find a character: a text that ends too early finds none, and all others
but a text that is nested too deeply find one. -/
structure FindsByKind (error : ParseError) : Prop where
  /-- These are about a character. -/
  found : error.kind = .invalidSyntax ∨ error.kind = .invalidRegex ∨ error.kind = .trailingContent →
    error.found.isSome = true
  /-- This one is about the end of the text. -/
  ended : error.kind = .incomplete → error.found = none

section Places

variable {source place : List Char}

omit [Regex.Engine] in
/-- An error at the offset of a place points at it. -/
theorem pointsAt_withContext (kind : ParseErrorKind) (message : String) (h : place <:+ source) :
    PointsAt source place
      (.withContext kind message source (byteLength source - byteLength place)) := by
  obtain ⟨before, rfl⟩ := h
  have hoffset : byteLength (before ++ place) - byteLength place = byteLength before := by
    rw [byteLength_append, Nat.add_sub_cancel]
  rw [hoffset]
  exact ⟨before, rfl, rfl, found_around before place⟩

/-- The report of a stop points at its place. -/
theorem pointsAt_report {stop : Stop} (h : stop.place <:+ source) :
    PointsAt source stop.place (stop.report source) := by
  unfold Stop.report
  split
  · exact pointsAt_withContext _ _ h
  · exact pointsAt_withContext _ _ h
  · split
    · exact pointsAt_withContext _ _ h
    · exact pointsAt_withContext _ _ h

/-- The report of a stop finds a character where its kind is about one. -/
theorem findsByKind_report {stop : Stop} (h : stop.place <:+ source)
    (hregex : ∀ refusal, stop.trouble = .badRegex refusal → stop.place ≠ []) :
    FindsByKind (stop.report source) := by
  obtain ⟨before, -, -, hfound⟩ := pointsAt_report h
  obtain ⟨committed, trouble, place⟩ := stop
  constructor
  · intro hshown
    rw [hfound]
    cases place with
    | cons c rest => rfl
    | nil =>
      cases trouble with
      | tooDeep => simp [Stop.report, ParseError.withContext] at hshown
      | badRegex refusal => exact absurd rfl (hregex refusal rfl)
      | unexpected => simp [Stop.report, ParseError.withContext] at hshown
  · intro hended
    rw [hfound]
    cases place with
    | nil => rfl
    | cons c rest => cases trouble <;> cases hended

/-- A round that stops with an error points at a place of the source. -/
theorem sourceRound_error {comments : Bool} {known : List Value} {text : List Char}
    {error : ParseError} (htext : text <:+ source)
    (h : sourceRound comments source known text = .inr (.error error)) :
    (∃ place, place <:+ text ∧ PointsAt source place error) ∧ FindsByKind error := by
  have hskip := (skipLayout_suffix comments text).1
  unfold sourceRound at h
  split at h
  · cases h
  · next rest hrest =>
    rw [hrest] at hskip
    have hpoints : PointsAt source (')' :: rest) (trailing source (')' :: rest)) :=
      pointsAt_withContext _ _ (hskip.trans htext)
    obtain rfl := Except.error.inj (Sum.inr.inj h)
    refine ⟨⟨_, hskip, hpoints⟩, ?_, fun hended => nomatch hended⟩
    obtain ⟨before, -, -, hfound⟩ := hpoints
    intro _
    rw [hfound]
    rfl
  · split at h
    · cases h
    · next stop hstop =>
      have hstays := expression_shortens comments maxDepth (skipLayout comments text)
      rw [hstop] at hstays
      obtain rfl := Except.error.inj (Sum.inr.inj h)
      have hplace := hstays.1.trans hskip
      exact ⟨⟨_, hplace, pointsAt_report (hplace.trans htext)⟩,
        findsByKind_report (hplace.trans htext) hstays.2⟩

/-- An error of a whole run points at a place of the source. -/
theorem expressions_error_pointsAt {comments : Bool} {fuel : Nat} {known : List Value}
    {text : List Char} {error : ParseError} (htext : text <:+ source)
    (h : expressions comments source fuel known text = .error error) :
    (∃ place, PointsAt source place error) ∧ FindsByKind error := by
  induction fuel generalizing known text with
  | zero => cases h
  | succ fuel ih =>
    rw [expressions_eq_sourceRound] at h
    cases hround : sourceRound comments source known text with
    | inl next =>
      rw [hround] at h
      exact ih ((sourceRound_shorter hround).1.trans htext) h
    | inr answer =>
      rw [hround] at h
      obtain rfl : answer = .error error := h
      obtain ⟨⟨place, -, hplace⟩, hfinds⟩ := sourceRound_error htext hround
      exact ⟨⟨place, hplace⟩, hfinds⟩

end Places

/-- An error of reading a text points at a place of it, unless the text holds no expression. -/
theorem readWith_error {comments : Bool} {source : String} {error : ParseError}
    (h : readWith comments source = .error error) :
    (error = .ofMessage .incomplete "Empty input" ∨ ∃ place, PointsAt source.toList place error) ∧
      FindsByKind error := by
  unfold readWith readChars at h
  cases hread : expressions comments source.toList (source.toList.length + 1) [] source.toList with
  | error stopped =>
    rw [hread] at h
    obtain rfl := Except.error.inj h
    obtain ⟨hplace, hfinds⟩ := expressions_error_pointsAt (List.suffix_refl _) hread
    exact ⟨.inr hplace, hfinds⟩
  | ok values =>
    rw [hread] at h
    cases values with
    | nil =>
      obtain rfl := Except.error.inj h
      exact ⟨.inl rfl, fun hshown => (by simp [ParseError.ofMessage] at hshown), fun _ => rfl⟩
    | cons value others => cases others <;> cases h

/-! ### The reader as a whole -/

/-- Every reading of an expression, a JSON document, a JSON container or the text of a string
leaves a proper end of its text or stops at a place of it. So the four loops end on every text,
with or without comments and with any room: their answers are those of finite runs. And every
error of a whole text that names a place points at a place between two characters, and finds the
character there; which kinds of errors find one is fixed. -/
theorem reading_advances (comments : Bool) (room : Nat) :
    (Advances (expression comments room) ∧ Advances (document (container room)) ∧
      Advances (container room) ∧ Advances stringText) ∧
    (∀ source known text, RunsTo (sourceRound comments source) known text
      (expressions comments source (text.length + 1) known text)) ∧
    (∀ known text, RunsTo (listRound comments (expression comments room)) known text
      (elements comments (expression comments room) (text.length + 1) known text)) ∧
    (∀ members text, RunsTo (objectRound (document (container room))) members text
      (objectMembers (document (container room)) (text.length + 1) members text)) ∧
    (∀ items text, RunsTo (arrayRound (document (container room))) items text
      (arrayItems (document (container room)) (text.length + 1) items text)) ∧
    (∀ source text stop, text <:+ source → expression comments room text = .error stop →
      PointsAt source stop.place (stop.report source) ∧ FindsByKind (stop.report source)) ∧
    ∀ source error, readWith comments source = .error error →
      (error = .ofMessage .incomplete "Empty input" ∨
        ∃ place, PointsAt source.toList place error) ∧ FindsByKind error := by
  have hexpression := expression_shortens comments room
  have hcontainer := container_shortens room
  have hdocument := document_shortens hcontainer
  refine ⟨⟨hexpression.advances, hdocument.advances, hcontainer.advances,
    stringText_shortens.advances⟩, fun _ _ _ => expressions_runsTo, elements_runsTo comments room,
    ?objects, ?arrays, ?stops, fun _ _ => readWith_error⟩
  case objects =>
    exact (objectMembers_readsItems _).runsTo (member_shortens hdocument) trimStart_suffix
      dropSeparator_suffix
  case arrays =>
    exact (arrayItems_readsItems _).runsTo hdocument.commit trimStart_suffix dropSeparator_suffix
  case stops =>
    intro source text stop htext hstop
    have hstays := hexpression text
    rw [hstop] at hstays
    have hplace := hstays.1.trans htext
    exact ⟨pointsAt_report hplace, findsByKind_report hplace hstays.2⟩

end ShapeLisp.Reader
