import ShapeLisp.Proofs.Reader.LineEnd

/-!
# Texts of several lines

An expression is read in the same way when another line follows, and what is left goes on with that
line. Containers and lists are read by loops, which skip layout before each item; the end of a line
is layout, so it changes nothing before the closing mark. Comments end with their line.

From this it follows that texts with one expression each, put one below the other, are read as the
list of their expressions.
-/

namespace ShapeLisp.Reader

open ShapeLisp.Text

/-! ### What is skipped -/

/-- The scanner reads nothing where the text ends. -/
def RefusesEnd {α : Type} (scanner : Scanner α) : Prop :=
  ∀ result, scanner [] ≠ .ok result

/-- Where something is left after skipping, the same is skipped when another line follows. -/
def SkipsAlike (skip : List Char → List Char) : Prop :=
  ∀ text more, skip text ≠ [] → skip (text ++ '\n' :: more) = skip text ++ '\n' :: more

section Skipping

variable {α : Type} {first second : Scanner α} {skip : List Char → List Char}

/-- Dropping characters of a kind. -/
theorem dropWhile_skipsAlike (p : Char → Bool) : SkipsAlike (List.dropWhile p) := by
  intro text more h
  rw [List.dropWhile_append, if_neg (by simpa using h)]

/-- Dropping a separator. -/
theorem dropSeparator_skipsAlike : SkipsAlike dropSeparator := by
  intro text more h
  have hskip : trimStart text ≠ [] := by
    intro hempty
    rw [dropSeparator, hempty] at h
    exact h rfl
  have hlonger : trimStart (text ++ '\n' :: more) = trimStart text ++ '\n' :: more :=
    dropWhile_skipsAlike _ text more hskip
  rw [dropSeparator, dropSeparator, hlonger]
  cases htrim : trimStart text with
  | nil => exact absurd htrim hskip
  | cons c tail =>
    by_cases hc : c = ','
    · subst hc
      rfl
    · rw [List.cons_append]
      split <;> simp_all

/-- A scanner after something was skipped. -/
theorem KeepsReading.skipping (h : KeepsReading first) (hend : RefusesEnd first)
    (hskip : SkipsAlike skip) : KeepsReading fun text => first (skip text) := by
  intro text found rest hfound more
  have hleft : skip text ≠ [] := by
    intro hempty
    dsimp only at hfound
    rw [hempty] at hfound
    exact hend _ hfound
  dsimp only
  rw [hskip text more hleft]
  exact h (skip text) found rest hfound more

/-- Two readings that both read nothing. -/
theorem RefusesEnd.either (hfirst : RefusesEnd first) (hsecond : RefusesEnd second) :
    RefusesEnd (Reader.either first second) := by
  intro result h
  rcases either_ok h with h | ⟨-, h⟩
  · exact hfirst result h
  · exact hsecond result h

/-- A scanner that is committed. -/
theorem RefusesEnd.commit (h : RefusesEnd first) :
    RefusesEnd fun text => Reader.commit (first text) :=
  fun result hresult => h result (commit_ok hresult)

end Skipping

/-! ### Loops -/

/-- A loop that reads items up to a closing mark. Before each item and before the mark something is
skipped, and something is skipped after each item. -/
structure ReadsItems {σ ι α : Type} (loop : Nat → σ → Scanner α)
    (before after : List Char → List Char) (mark : Char) (item : Scanner ι) (finish : σ → α)
    (add : σ → ι → σ) : Prop where
  /-- Without fuel nothing is read. -/
  exhausted : ∀ state text result, loop 0 state text ≠ .ok result
  /-- The mark ends the loop. -/
  closed : ∀ fuel state text rest, before text = mark :: rest →
    loop (fuel + 1) state text = .ok (finish state, rest)
  /-- Otherwise an item is read and the loop goes on. -/
  goes : ∀ fuel state text, (∀ rest, before text ≠ mark :: rest) →
    loop (fuel + 1) state text =
      item (before text) >>= fun found => loop fuel (add state found.1) (after found.2)

namespace ReadsItems

variable {σ ι α : Type} {loop : Nat → σ → Scanner α} {before after : List Char → List Char}
  {mark : Char} {item : Scanner ι} {finish : σ → α} {add : σ → ι → σ}

/-- A loop does not end where the text ends. -/
theorem refusesEnd (h : ReadsItems loop before after mark item finish add)
    (hend : RefusesEnd item) (hnil : before [] = []) (fuel : Nat) (state : σ) :
    RefusesEnd (loop fuel state) := by
  intro result hresult
  cases fuel with
  | zero => exact h.exhausted state [] result hresult
  | succ fuel =>
    have hopen : ∀ rest, before [] ≠ mark :: rest := by
      intro rest hrest
      rw [hnil] at hrest
      cases hrest
    rw [h.goes fuel state [] hopen, hnil] at hresult
    obtain ⟨found, hfound, -⟩ := bind_ok hresult
    exact hend found hfound

/-- A loop reads the same when another line follows, if there is fuel for it. -/
theorem line (h : ReadsItems loop before after mark item finish add) (hitem : KeepsReading item)
    (hend : RefusesEnd item) (hnil : before [] = []) (hbefore : SkipsAlike before)
    (hafter : SkipsAlike after) {fuel larger : Nat} (hfuel : fuel ≤ larger) {state : σ}
    {text rest : List Char} {found : α} (hfound : loop fuel state text = .ok (found, rest))
    (more : List Char) :
    loop larger state (text ++ '\n' :: more) = .ok (found, rest ++ '\n' :: more) := by
  induction fuel generalizing larger state text with
  | zero => exact absurd hfound (h.exhausted state text _)
  | succ fuel ih =>
    obtain ⟨larger, rfl⟩ : ∃ less, larger = less + 1 := ⟨larger - 1, by omega⟩
    by_cases hclosed : ∃ left, before text = mark :: left
    · obtain ⟨left, hleft⟩ := hclosed
      rw [h.closed fuel state text left hleft] at hfound
      obtain ⟨rfl, rfl⟩ := Prod.mk.inj (Except.ok.inj hfound)
      apply h.closed
      rw [hbefore text more (by simp [hleft]), hleft, List.cons_append]
    · have hopen : ∀ left, before text ≠ mark :: left := fun left hleft => hclosed ⟨left, hleft⟩
      rw [h.goes fuel state text hopen] at hfound
      obtain ⟨⟨value, left⟩, hvalue, hlater⟩ := bind_ok hfound
      have hnonempty : before text ≠ [] := by
        intro hempty
        rw [hempty] at hvalue
        exact hend _ hvalue
      have hleft : after left ≠ [] := by
        intro hempty
        dsimp only at hlater
        rw [hempty] at hlater
        exact h.refusesEnd hend hnil fuel _ _ hlater
      have hstill : ∀ tail, before (text ++ '\n' :: more) ≠ mark :: tail := by
        intro tail htail
        rw [hbefore text more hnonempty] at htail
        cases htext : before text with
        | nil => exact hnonempty htext
        | cons c others =>
          rw [htext, List.cons_append] at htail
          exact hopen others (by rw [htext, (List.cons.inj htail).1])
      rw [h.goes larger state _ hstill, hbefore text more hnonempty,
        hitem _ value left hvalue more]
      change loop larger (add state value) (after (left ++ '\n' :: more)) = _
      rw [hafter left more hleft]
      exact ih (Nat.le_of_succ_le_succ hfuel) hlater

end ReadsItems

/-! ### JSON literals -/

/-- Dropping white space. -/
theorem trimStart_skipsAlike : SkipsAlike trimStart :=
  dropWhile_skipsAlike isWhitespace

/-- What is read as a document after blanks. -/
theorem either_document_keepsReading {inner : Scanner Json} (hinner : IgnoresLines inner) :
    KeepsReading (either inner (either (fun text => mapResult .str (stringText text))
      (either numberDocument fun text => mapResult wordDocument (bareWord text)))) :=
  .either hinner (.either (stringText_ignoresLines.mapResult _)
    (.either numberDocument_ignoresLines (bareWord_keepsReading.mapResult _)))

/-- A document reads nothing where the text ends. -/
theorem document_refusesEnd {inner : Scanner Json} (hend : RefusesEnd inner) :
    RefusesEnd (document inner) :=
  hend.either (.either (fun _ h => nomatch h)
    (.either (fun _ h => nomatch h) fun _ h => nomatch h))

/-- A document whose containers are read alike. -/
theorem document_keepsReading {inner : Scanner Json} (hinner : IgnoresLines inner)
    (hend : RefusesEnd inner) : KeepsReading (document inner) :=
  (either_document_keepsReading hinner).skipping (document_refusesEnd hend)
    (dropWhile_skipsAlike isBlank)

/-- A key. -/
theorem key_keepsReading : KeepsReading key := by
  have hread : KeepsReading
      (either stringText fun text => mapResult String.ofList (bareWord text)) :=
    .either stringText_ignoresLines (bareWord_keepsReading.mapResult _)
  exact hread.skipping (.either (fun _ h => nomatch h) fun _ h => nomatch h)
    (dropWhile_skipsAlike isBlank)

/-- A colon. -/
theorem colon_keepsReading : KeepsReading colon := by
  have hcolon : IgnoresLines (exactly [':']) := exactly_ignoresLines (by decide)
  exact hcolon.reads.skipping (fun _ h => nomatch h) (dropWhile_skipsAlike isBlank)

/-- A member of an object: its key, a colon and its document. -/
def member (item : Scanner Json) : Scanner (String × Json) := fun text =>
  commit (key text) >>= fun name => commit (colon name.2) >>= fun colon =>
    commit (item colon.2) >>= fun document => .ok ((name.1, document.1), document.2)

/-- A member whose document is read alike. -/
theorem member_keepsReading {item : Scanner Json} (hitem : KeepsReading item) :
    KeepsReading (member item) := by
  have hpair : ∀ name document, KeepsReading fun rest =>
      (.ok ((name, document), rest) : Except Stop ((String × Json) × List Char)) := by
    intro name document text found rest h more
    obtain ⟨rfl, rfl⟩ := Prod.mk.inj (Except.ok.inj h)
    rfl
  exact key_keepsReading.commit.bind fun name => colon_keepsReading.commit.bind fun _ =>
    hitem.commit.bind fun document => hpair name document

/-- A member reads nothing where the text ends. -/
theorem member_refusesEnd (item : Scanner Json) : RefusesEnd (member item) :=
  fun _ h => nomatch h

/-- The members of an object are read by a loop. -/
theorem objectMembers_readsItems (item : Scanner Json) :
    ReadsItems (objectMembers item) trimStart dropSeparator '\x7d' (member item) Json.obj
      fun members entry => Keyed.insert entry.1 entry.2 members where
  exhausted _ _ _ h := nomatch h
  closed fuel members text rest hrest := by simp only [objectMembers, hrest]
  goes fuel members text hopen := by
    rw [objectMembers]
    split
    · next rest hrest => exact absurd hrest (hopen rest)
    · simp only [member, bind_assoc]
      rfl

/-- The items of an array are read by a loop. -/
theorem arrayItems_readsItems (item : Scanner Json) :
    ReadsItems (arrayItems item) trimStart dropSeparator ']' (fun text => commit (item text))
      (fun items => Json.arr items.reverse) fun items document => document :: items where
  exhausted _ _ _ h := nomatch h
  closed fuel items text rest hrest := by simp only [arrayItems, hrest]
  goes fuel items text hopen := by
    rw [arrayItems]
    split
    · next rest hrest => exact absurd hrest (hopen rest)
    · rfl

/-- The members of an object leave no other reading. -/
theorem objectMembers_isCommitted (item : Scanner Json) (fuel : Nat) (members : Keyed Json)
    (text : List Char) : IsCommitted (objectMembers item fuel members text) := by
  induction fuel generalizing members text with
  | zero => exact isCommitted_failed _ _
  | succ fuel ih =>
    rw [objectMembers]
    split
    · exact isCommitted_ok _
    · exact (isCommitted_commit _).bind fun name => (isCommitted_commit _).bind fun colon =>
        (isCommitted_commit _).bind fun document => ih _ _

/-- The items of an array leave no other reading. -/
theorem arrayItems_isCommitted (item : Scanner Json) (fuel : Nat) (items : List Json)
    (text : List Char) : IsCommitted (arrayItems item fuel items text) := by
  induction fuel generalizing items text with
  | zero => exact isCommitted_failed _ _
  | succ fuel ih =>
    rw [arrayItems]
    split
    · exact isCommitted_ok _
    · exact (isCommitted_commit _).bind fun document => ih _ _

/-- A container begins with its opening mark and leaves no other reading then. -/
theorem container_keepsDeclining (room : Nat) : KeepsDeclining (container room) := by
  refine .of_first (fun more => container_declines (by decide) (by decide) room more)
    fun c tail h more => ?_
  by_cases hbrace : c = '\x7b'
  · subst hbrace
    refine absurd h (IsCommitted.not_declines ?_)
    cases room with
    | zero => exact isCommitted_failed _ _
    | succ room => exact objectMembers_isCommitted _ _ _ _
  · by_cases hbracket : c = '['
    · subst hbracket
      refine absurd h (IsCommitted.not_declines ?_)
      cases room with
      | zero => exact isCommitted_failed _ _
      | succ room => exact arrayItems_isCommitted _ _ _ _
    · exact container_declines hbrace hbracket room more

/-- A container reads nothing where the text ends. -/
theorem container_refusesEnd (room : Nat) : RefusesEnd (container room) := by
  intro result h
  cases room <;> cases h

/-- An object or an array. -/
theorem container_ignoresLines (room : Nat) : IgnoresLines (container room) := by
  induction room with
  | zero =>
    refine ⟨fun text found rest h => ?_, container_keepsDeclining 0⟩
    unfold container at h
    split at h <;> cases h
  | succ room ih =>
    refine ⟨fun text found rest h more => ?_, container_keepsDeclining (room + 1)⟩
    have hitem := document_keepsReading ih (container_refusesEnd room)
    have hend := document_refusesEnd (container_refusesEnd room)
    have hfuel : ∀ tail : List Char, tail.length + 1 ≤ (tail ++ '\n' :: more).length + 1 := by
      intro tail
      rw [List.length_append]
      omega
    unfold container at h
    split at h
    · next tail =>
      exact (objectMembers_readsItems _).line (member_keepsReading hitem) (member_refusesEnd _)
        rfl trimStart_skipsAlike dropSeparator_skipsAlike (hfuel tail) h more
    · next tail =>
      exact (arrayItems_readsItems _).line hitem.commit hend.commit rfl trimStart_skipsAlike
        dropSeparator_skipsAlike (hfuel tail) h more
    · cases h

/-! ### Expressions -/

/-- Layout before another line: where something is left the line stays, and else it is skipped as
well. Comments end with their line. -/
theorem skipLayout_line (comments : Bool) (text more : List Char) :
    skipLayout comments (text ++ '\n' :: more) =
        (if skipLayout comments text = [] then skipLayout comments more
          else skipLayout comments text ++ '\n' :: more) ∧
      skipComment comments (text ++ '\n' :: more) =
        (if skipComment comments text = [] then skipLayout comments more
          else skipComment comments text ++ '\n' :: more) := by
  induction text with
  | nil => exact ⟨rfl, rfl⟩
  | cons c rest ih =>
    obtain ⟨hlayout, hcomment⟩ := ih
    rw [List.cons_append, skipLayout, skipLayout, skipComment, skipComment]
    constructor
    · split
      · exact hlayout
      · split
        · exact hcomment
        · rfl
    · split
      · exact hlayout
      · exact hcomment

/-- Layout is skipped alike where something is left. -/
theorem skipLayout_skipsAlike (comments : Bool) : SkipsAlike (skipLayout comments) := by
  intro text more h
  rw [(skipLayout_line comments text more).1, if_neg h]

variable [Regex.Engine]

/-- A quoted expression. -/
theorem quotation_ignoresLines {inner : Scanner Value} (hinner : KeepsReading inner) :
    IgnoresLines (quotation inner) where
  reads text found rest h more := by
    unfold quotation at h
    split at h
    · next body => exact hinner.commit.mapResult _ body found rest h more
    · cases h
  declines := by
    have hother : ∀ c tail, c ≠ '\'' → Declines (quotation inner) (c :: tail) := by
      intro c tail hc
      refine .of_unexpected (c :: tail) ?_
      rw [quotation]
      exact fun rest htext => hc (List.cons.inj htext).1
    refine .of_first (fun more => hother '\n' more (by decide)) fun c tail h more => ?_
    by_cases hc : c = '\''
    · subst hc
      exact absurd h ((isCommitted_commit _).mapResult _).not_declines
    · exact hother c more hc

/-- The elements of a list are read by a loop. -/
theorem elements_readsItems (comments : Bool) (element : Scanner Value) :
    ReadsItems (elements comments element) (skipLayout comments) id ')'
      (fun text => commit (element text)) (fun known => Value.list known.reverse)
      fun known value => value :: known where
  exhausted _ _ _ h := nomatch h
  closed fuel known text rest hrest := by simp only [elements, hrest]
  goes fuel known text hopen := by
    rw [elements]
    split
    · next rest hrest => exact absurd hrest (hopen rest)
    · rfl

/-- The elements of a list leave no other reading. -/
theorem elements_isCommitted (comments : Bool) (element : Scanner Value) (fuel : Nat)
    (known : List Value) (text : List Char) :
    IsCommitted (elements comments element fuel known text) := by
  induction fuel generalizing known text with
  | zero => exact isCommitted_failed _ _
  | succ fuel ih =>
    rw [elements]
    split
    · exact isCommitted_ok _
    · exact (isCommitted_commit _).bind fun value => ih _ _

/-- A list. -/
theorem parenthesized_ignoresLines (comments : Bool) {element : Scanner Value}
    (helement : KeepsReading element) (hend : RefusesEnd element) :
    IgnoresLines (parenthesized comments element) where
  reads text found rest h more := by
    unfold parenthesized at h
    split at h
    · next tail =>
      have hfuel : tail.length + 1 ≤ (tail ++ '\n' :: more).length + 1 := by
        rw [List.length_append]
        omega
      exact (elements_readsItems comments element).line helement.commit hend.commit rfl
        (skipLayout_skipsAlike comments) (fun _ _ _ => rfl) hfuel h more
    · cases h
  declines := by
    have hother : ∀ c tail, c ≠ '(' → Declines (parenthesized comments element) (c :: tail) := by
      intro c tail hc
      refine .of_unexpected (c :: tail) ?_
      rw [parenthesized]
      exact fun rest htext => hc (List.cons.inj htext).1
    refine .of_first (fun more => hother '\n' more (by decide)) fun c tail h more => ?_
    by_cases hc : c = '('
    · subst hc
      exact absurd h (elements_isCommitted comments element _ _ _).not_declines
    · exact hother c more hc

/-- An expression reads nothing where the text ends. -/
theorem expression_refusesEnd (comments : Bool) (room : Nat) :
    RefusesEnd (expression comments room) := by
  intro result h
  cases room with
  | zero => cases h
  | succ room => cases h

/-- An expression. -/
theorem expression_keepsReading (comments : Bool) (room : Nat) :
    KeepsReading (expression comments room) := by
  induction room with
  | zero => exact fun _ _ _ h => nomatch h
  | succ room ih =>
    have hlist := parenthesized_ignoresLines comments ih (expression_refusesEnd comments room)
    have hread : KeepsReading (either (quotation (expression comments room))
        (either (parenthesized comments (expression comments room))
          (either (fun text => mapResult .json (container (room + 1) text)) token))) :=
      .either (quotation_ignoresLines ih) (.either hlist
        (.either ((container_ignoresLines (room + 1)).mapResult _) token_keepsReading))
    exact hread.skipping (fun _ h => nomatch h) (skipLayout_skipsAlike comments)

/-! ### Source texts of several lines -/

/-- The expressions of a source text, with or without comments. -/
def HasExpressions (comments : Bool) (source : String) (values : List Value) : Prop :=
  expressions comments source.toList (source.toList.length + 1) [] source.toList = .ok values

/-- A text has one expression, with layout around it. -/
def HoldsOne (comments : Bool) (text : List Char) (value : Value) : Prop :=
  ∃ c tail rest, skipLayout comments text = c :: tail ∧ c ≠ ')' ∧
    expression comments maxDepth (c :: tail) = .ok (value, rest) ∧ skipLayout comments rest = []

section Step

variable {comments : Bool} {source text : List Char} {fuel : Nat} {known values : List Value}

/-- Where expressions are read there is none left, or the first one and then the others. -/
theorem expressions_cases (h : expressions comments source (fuel + 1) known text = .ok values) :
    skipLayout comments text = [] ∧ values = known.reverse ∨
      ∃ c tail value rest, skipLayout comments text = c :: tail ∧ c ≠ ')' ∧
        expression comments maxDepth (c :: tail) = .ok (value, rest) ∧
        expressions comments source fuel (value :: known) rest = .ok values := by
  rw [expressions] at h
  split at h
  · next hskip => exact .inl ⟨hskip, (Except.ok.inj h).symm⟩
  · cases h
  · next hnil hclose =>
    split at h
    · next value rest hvalue =>
      cases hskip : skipLayout comments text with
      | nil => exact absurd hskip hnil
      | cons c tail =>
        rw [hskip] at hvalue
        exact .inr ⟨c, tail, value, rest, rfl, fun hc => hclose tail (by rw [hskip, hc]),
          hvalue, h⟩
    · cases h

/-- Only the layout in front of a text is skipped before it is read. -/
theorem expressions_congr {other : List Char}
    (h : skipLayout comments text = skipLayout comments other) :
    expressions comments source fuel known text = expressions comments source fuel known other := by
  cases fuel with
  | zero => rfl
  | succ fuel => rw [expressions, expressions, h]

/-- No expression that has been read is lost. -/
theorem length_le_of_expressions (h : expressions comments source fuel known text = .ok values) :
    known.length ≤ values.length := by
  have hreverse : values = known.reverse → known.length ≤ values.length := by
    rintro rfl
    rw [List.length_reverse]
  induction fuel generalizing known text with
  | zero => exact hreverse (Except.ok.inj h).symm
  | succ fuel ih =>
    rcases expressions_cases h with ⟨-, hvalues⟩ | ⟨-, -, value, rest, -, -, -, hothers⟩
    · exact hreverse hvalues
    · have hmore : (value :: known).length ≤ values.length := by
        refine ih hothers ?_
        rintro rfl
        rw [List.length_reverse]
      exact Nat.le_of_succ_le hmore

end Step

/-- A source text with one expression begins with it, and only layout follows. -/
theorem HasExpressions.holdsOne {comments : Bool} {source : String} {value : Value}
    (h : HasExpressions comments source [value]) : HoldsOne comments source.toList value := by
  rcases expressions_cases h with ⟨-, hnone⟩ | ⟨c, tail, first, rest, hskip, hc, hfirst, hothers⟩
  · cases hnone
  · -- A text with an expression is not empty, so there is fuel to look for another one.
    obtain ⟨fuel, hfuel⟩ : ∃ fuel, source.toList.length = fuel + 1 := by
      cases hsource : source.toList with
      | nil =>
        rw [hsource] at hskip
        cases hskip
      | cons d others => exact ⟨others.length, rfl⟩
    rw [hfuel] at hothers
    rcases expressions_cases hothers with ⟨hend, hvalues⟩ | ⟨-, -, second, left, -, -, -, hlater⟩
    · obtain rfl : value = first := (List.cons.inj hvalues).1
      exact ⟨c, tail, rest, hskip, hc, hfirst, hend⟩
    · have htwo := length_le_of_expressions hlater
      simp at htwo

section Lines

variable {comments : Bool} {text : List Char} {value : Value}

/-- The last line. -/
theorem HoldsOne.last (h : HoldsOne comments text value) (source : List Char) (fuel : Nat)
    (known : List Value) :
    expressions comments source (fuel + 1) known text = .ok (known.reverse ++ [value]) := by
  obtain ⟨c, tail, rest, hskip, hc, hvalue, hend⟩ := h
  rw [expressions_cons hskip hc hvalue, expressions_nil hend, List.reverse_cons]

/-- A line that is followed by others. -/
theorem HoldsOne.line (h : HoldsOne comments text value) (source more : List Char) (fuel : Nat)
    (known : List Value) :
    expressions comments source (fuel + 1) known (text ++ '\n' :: more) =
      expressions comments source fuel (value :: known) more := by
  obtain ⟨c, tail, rest, hskip, hc, hvalue, hend⟩ := h
  have hlonger : skipLayout comments (text ++ '\n' :: more) = c :: (tail ++ '\n' :: more) := by
    rw [skipLayout_skipsAlike comments text more (by simp [hskip]), hskip, List.cons_append]
  have hsame := expression_keepsReading comments maxDepth _ value rest hvalue more
  rw [expressions_cons hlonger hc hsame]
  apply expressions_congr
  rw [(skipLayout_line comments rest more).1, if_pos hend]

/-- Lines are read one after the other. -/
theorem expressions_lines {texts : List (List Char)} {values : List Value}
    (h : List.Forall₂ (HoldsOne comments) texts values) (source : List Char) {fuel : Nat}
    (hnonempty : texts ≠ []) (hfuel : texts.length ≤ fuel) (known : List Value) :
    expressions comments source fuel known (['\n'].intercalate texts) =
      .ok (known.reverse ++ values) := by
  induction h generalizing fuel known with
  | nil => exact absurd rfl hnonempty
  | @cons text value texts values hfirst hothers ih =>
    obtain ⟨fuel, rfl⟩ : ∃ less, fuel = less + 1 := ⟨fuel - 1, by simp at hfuel; omega⟩
    cases hothers with
    | nil =>
      rw [List.intercalate_singleton]
      exact hfirst.last source fuel known
    | @cons second _ others _ hsecond hrest =>
      rw [List.intercalate_cons_cons, List.append_assoc, List.singleton_append, hfirst.line,
        ih (by simp) (Nat.le_of_succ_le_succ hfuel), List.reverse_cons, List.append_assoc,
        List.singleton_append]

end Lines

omit [Regex.Engine] in
/-- Put one below the other, texts are at least as many characters as there are line ends. -/
theorem length_le_intercalate (texts : List (List Char)) :
    texts.length ≤ (['\n'].intercalate texts).length + 1 := by
  induction texts with
  | nil => simp
  | cons text others ih =>
    cases others with
    | nil => simp
    | cons second more =>
      rw [List.intercalate_cons_cons, List.append_assoc, List.length_append, List.length_append]
      simp only [List.length_cons, List.length_nil] at ih ⊢
      omega

/-- Source texts with one expression each, put one below the other, are read as the list of their
expressions. -/
theorem readWith_lines {comments : Bool} {sources : List String} {values : List Value}
    (hlength : 2 ≤ sources.length)
    (h : List.Forall₂ (fun source value => HasExpressions comments source [value])
      sources values) :
    readWith comments ("\n".intercalate sources) = .ok (.list values) := by
  have htexts : List.Forall₂ (HoldsOne comments) (sources.map String.toList) values :=
    List.forall₂_map_left_iff.mpr (h.imp fun _ _ hone => hone.holdsOne)
  have hnonempty : sources.map String.toList ≠ [] := by
    intro hnil
    rw [List.map_eq_nil_iff.mp hnil] at hlength
    simp at hlength
  have hread := expressions_lines htexts (['\n'].intercalate (sources.map String.toList))
    hnonempty (length_le_intercalate _) []
  have hvalues : 2 ≤ values.length := h.length_eq ▸ hlength
  have hjoined : ("\n".intercalate sources).toList =
      ['\n'].intercalate (sources.map String.toList) := String.toList_intercalate
  rw [readWith, hjoined, readChars, hread]
  cases values with
  | nil => exact absurd hvalues (by simp)
  | cons first rest =>
    cases rest with
    | nil => exact absurd hvalues (by simp)
    | cons second others => rfl

end ShapeLisp.Reader
