import ShapeLisp.Proofs.Reader.Progress
import ShapeLisp.Proofs.Reader.Reread
import ShapeLisp.Regex.Engine

/-!
# Parentheses that are not balanced

The display of a value is a sequence of tokens with spaces between the items of lists. What is read
of it may be cut off after any token, or go on after the last one. While a parenthesis is open the
reader is inside a list and demands another element, which is not there: whatever the other readings
of the text were, the list is committed to, and so is everything around it, so the reading stops
where the text ends. A parenthesis after a whole value closes nothing, and what follows it is not
looked at.

A reader without a level left refuses an element before it looks at the text. Such a list may still
be read when it is empty, so that cutting it open needs a level more than reading it.
-/

namespace ShapeLisp

open ShapeLisp.Text

/-! ### The tokens of a display -/

/-- What the display of a value is made of. -/
inductive Lexeme where
  /-- The opening parenthesis of a list. -/
  | opening
  /-- The closing parenthesis of a list. -/
  | closing
  /-- A quotation mark. -/
  | quotation
  /-- The text of a value without parts, or of a JSON literal. -/
  | atom (text : List Char)
  /-- The space between two items of a list. -/
  | space
  deriving DecidableEq

namespace Lexeme

/-- The text of a token or a space. -/
def chars : Lexeme → List Char
  | opening => ['(']
  | closing => [')']
  | quotation => ['\'']
  | atom text => text
  | space => [' ']

/-- The text of tokens and spaces, one after the other. -/
def spelling (lexemes : List Lexeme) : List Char :=
  lexemes.flatMap chars

/-- The text begins with that of the first token. -/
theorem spelling_cons (first : Lexeme) (others : List Lexeme) :
    spelling (first :: others) = first.chars ++ spelling others :=
  List.flatMap_cons

/-- The text of two sequences is that of the one and then that of the other. -/
theorem spelling_append (first second : List Lexeme) :
    spelling (first ++ second) = spelling first ++ spelling second :=
  List.flatMap_append

end Lexeme

section AnyEngine

variable [Regex.Engine]

namespace Value

open Lexeme

mutual

/-- The tokens and spaces of a display. -/
def lexemes : Value → List Lexeme
  | .list items => .opening :: (lexemesAll items ++ [.closing])
  | .quoted inner => .quotation :: lexemes inner
  | value => [.atom value.displayChars]

/-- The tokens and spaces of the items of a list. -/
def lexemesAll : List Value → List Lexeme
  | [] => []
  | [value] => lexemes value
  | value :: rest => lexemes value ++ .space :: lexemesAll rest

end

mutual

/-- How deep the lists in a value lie. The value itself lies at depth zero, and what is in a list or
after a quotation mark lies a level deeper. -/
def listDepths : Value → List Nat
  | .list items => 0 :: (listDepthsAll items).map (· + 1)
  | .quoted inner => (listDepths inner).map (· + 1)
  | _ => []

/-- How deep the lists in the items of a list lie. -/
def listDepthsAll : List Value → List Nat
  | [] => []
  | item :: rest => listDepths item ++ listDepthsAll rest

end

/-- After the tokens of the first item come those of the others, with a space if there are any. -/
theorem lexemesAll_cons (value : Value) (more : List Value) :
    ∃ gap, lexemesAll (value :: more) = value.lexemes ++ (gap ++ lexemesAll more) ∧
      (gap = [] ∧ more = [] ∨ gap = [.space]) := by
  cases more with
  | nil => exact ⟨[], by rw [lexemesAll, lexemesAll, List.append_nil, List.append_nil],
      .inl ⟨rfl, rfl⟩⟩
  | cons second rest => exact ⟨[.space], rfl, .inr rfl⟩

mutual

/-- The tokens and spaces of a value spell its display. -/
theorem spelling_lexemes : ∀ (value : Value), spelling value.lexemes = value.displayChars
  | .list items => by
    rw [lexemes, spelling_cons, spelling_append, spelling_lexemesAll items]
    rfl
  | .quoted inner => by
    rw [lexemes, spelling_cons, spelling_lexemes inner]
    rfl
  | .nil | .bool _ | .num _ | .str _ | .sym _ | .range _ _ _ | .regex _ | .json _ | .pointer _
  | .builtin _ | .closure _ _ _ _ => List.append_nil _

/-- Those of the items of a list spell their display. -/
theorem spelling_lexemesAll : ∀ (items : List Value),
    spelling (lexemesAll items) = displayAll items
  | [] => rfl
  | [value] => spelling_lexemes value
  | value :: second :: rest => by
    rw [lexemesAll, spelling_append, spelling_cons, spelling_lexemes value,
      spelling_lexemesAll (second :: rest)]
    · rfl
    · exact fun h => nomatch h

end

mutual

/-- A value closes as many parentheses as it opens. -/
theorem lexemes_balanced : ∀ (value : Value),
    value.lexemes.count .opening = value.lexemes.count .closing
  | .list items => by
    have hitems := lexemesAll_balanced items
    simp [lexemes, hitems]
  | .quoted inner => by
    have hinner := lexemes_balanced inner
    simp [lexemes, hinner]
  | .nil | .bool _ | .num _ | .str _ | .sym _ | .range _ _ _ | .regex _ | .json _ | .pointer _
  | .builtin _ | .closure _ _ _ _ => rfl

/-- The items of a list close as many parentheses as they open. -/
theorem lexemesAll_balanced : ∀ (items : List Value),
    (lexemesAll items).count .opening = (lexemesAll items).count .closing
  | [] => rfl
  | value :: more => by
    obtain ⟨gap, hlexemes, hgap⟩ := lexemesAll_cons value more
    have hvalue := lexemes_balanced value
    have hmore := lexemesAll_balanced more
    rw [hlexemes]
    rcases hgap with ⟨rfl, -⟩ | rfl
    · simp [hvalue, hmore]
    · simp [hvalue, hmore]

end

/-- A value that can be written takes a level. -/
theorem nesting_pos {value : Value} (h : value.Readable) : 0 < value.nesting := by
  cases value with
  | list items => exact Nat.succ_pos _
  | quoted inner => exact Nat.succ_pos _
  | json document =>
    cases document with
    | arr items => exact Nat.succ_pos _
    | obj members => exact Nat.succ_pos _
    | _ => exact absurd h.1 id
  | _ => exact Nat.one_pos

end Value

namespace Reader

open Lexeme

/-- The first token of a value that can be written begins like an expression. -/
theorem lexemes_first {value : Value} (hreadable : value.Readable) (hclosed : RegexesClosed value) :
    ∃ first others, value.lexemes = first :: others ∧
      ∃ c tail, first.chars = c :: tail ∧ BeginsExpression c := by
  cases value with
  | list items => exact ⟨_, _, rfl, _, _, rfl, beginsExpression_opening⟩
  | quoted inner => exact ⟨_, _, rfl, _, _, rfl, beginsExpression_mark⟩
  | _ => exact ⟨_, _, rfl, rendered_first hreadable hclosed (rendered_displayChars _)⟩

/-- What is left of the text of a value, if anything is, begins like an expression. -/
theorem spelling_begins {value : Value} (hreadable : value.Readable)
    (hclosed : RegexesClosed value) {front : List Lexeme} (hfront : front <+: value.lexemes)
    (hnonempty : front ≠ []) : ∃ c tail, spelling front = c :: tail ∧ BeginsExpression c := by
  obtain ⟨first, others, hlexemes, c, tail, hfirst, hc⟩ := lexemes_first hreadable hclosed
  rw [hlexemes, List.prefix_cons_iff] at hfront
  obtain ⟨more, rfl, -⟩ := hfront.resolve_left hnonempty
  exact ⟨c, tail ++ spelling more, by rw [spelling_cons, hfirst, List.cons_append], hc⟩

/-- What is left after a whole item is a gap that ends its token, and then the text that is left of
the others. -/
theorem spelling_others {gap others : List Lexeme} {more : List Value}
    (hgap : gap = [] ∧ more = [] ∨ gap = [.space])
    (hothers : others <+: gap ++ Value.lexemesAll more) :
    ∃ space front, spelling others = space ++ spelling front ∧ Gap space ∧
      EndsToken (spelling others) ∧ front <+: Value.lexemesAll more := by
  rcases hgap with ⟨rfl, rfl⟩ | rfl
  · obtain rfl := List.prefix_nil.mp hothers
    exact ⟨[], [], rfl, .nil, .nil, List.nil_prefix⟩
  · have hspace : isWhitespace ' ' = true := by decide
    rw [List.singleton_append, List.prefix_cons_iff] at hothers
    rcases hothers with rfl | ⟨front, rfl, hfront⟩
    · exact ⟨[], [], rfl, .nil, .nil, List.nil_prefix⟩
    · exact ⟨[' '], front, rfl, .blank hspace .nil, .whitespace hspace _, hfront⟩

/-! ### Texts that end too early -/

/-- Nothing is read where the text ends. -/
theorem expression_end {room : Nat} (hroom : 0 < room) :
    commit (expression true room []) = failed .unexpected [] := by
  cases room with
  | zero => exact absurd hroom (Nat.lt_irrefl 0)
  | succ room => rfl

/-- A list demands an element where the text ends. -/
theorem elements_end {room : Nat} (hroom : 0 < room) {gap : List Char} (hgap : Gap gap)
    (fuel : Nat) (known : List Value) :
    elements true (expression true room) (fuel + 1) known gap = failed .unexpected [] := by
  have hskip : skipLayout true gap = [] := by simpa [skipLayout] using hgap.skip []
  rw [elements, hskip]
  change (commit (expression true room [])).bind _ = _
  rw [expression_end hroom]
  rfl

/-- A list stops where its elements do. -/
theorem expression_list_end {room : Nat} {text : List Char}
    (h : elements true (expression true room) (text.length + 1) [] text = failed .unexpected []) :
    commit (expression true (room + 1) ('(' :: text)) = failed .unexpected [] := by
  have hlist : parenthesized true (expression true room) ('(' :: text) = failed .unexpected [] := h
  rw [expression_opening, either_of_failed hlist]
  rfl

/-- A quotation stops where what is quoted does. -/
theorem expression_quoted_end {room : Nat} {text : List Char}
    (h : commit (expression true room text) = failed .unexpected []) :
    commit (expression true (room + 1) ('\'' :: text)) = failed .unexpected [] := by
  have hquotation : quotation (expression true room) ('\'' :: text) = failed .unexpected [] := by
    rw [quotation, h]
    rfl
  rw [expression, beginsExpression_mark.skip, either_of_failed hquotation]
  rfl

mutual

/-- A value that is cut off after a token, or before the first one, stops the reading where the text
ends. Its lists leave a level for an element. -/
theorem expression_cut : ∀ (value : Value), value.Readable → RegexesClosed value →
    ∀ (room : Nat), value.nesting ≤ room → (∀ depth ∈ value.listDepths, depth + 1 < room) →
      ∀ (front : List Lexeme), front <+: value.lexemes → front ≠ value.lexemes →
        commit (expression true room (spelling front)) = failed .unexpected []
  | value, hreadable, _, room, hroom, _, [], _, _ =>
    expression_end (Nat.lt_of_lt_of_le (Value.nesting_pos hreadable) hroom)
  | .list items, hreadable, hclosed, room + 1, hroom, hdepths, first :: others, hfront, hcut => by
    rw [Value.lexemes] at hfront hcut
    obtain ⟨rfl, hothers⟩ := List.cons_prefix_cons.mp hfront
    have hitems : others <+: Value.lexemesAll items :=
      (List.prefix_concat_iff.mp hothers).resolve_left fun hwhole => hcut (by rw [hwhole])
    have hlevel : 0 < room := by
      have hlist := hdepths 0 List.mem_cons_self
      omega
    have hdeeper : ∀ depth ∈ Value.listDepthsAll items, depth + 1 < room := by
      intro depth hmem
      have hitem := hdepths (depth + 1) (List.mem_cons_of_mem _ (List.mem_map_of_mem hmem))
      omega
    exact expression_list_end (elements_cut items hreadable hclosed room hlevel
      (Nat.le_of_succ_le_succ hroom) hdeeper [] .nil others hitems _ [] (Nat.lt_succ_self _))
  | .quoted inner, hreadable, hclosed, room + 1, hroom, hdepths, first :: others, hfront, hcut => by
    rw [Value.lexemes] at hfront hcut
    obtain ⟨rfl, hothers⟩ := List.cons_prefix_cons.mp hfront
    have hdeeper : ∀ depth ∈ inner.listDepths, depth + 1 < room := by
      intro depth hmem
      have hinner := hdepths (depth + 1) (List.mem_map_of_mem hmem)
      omega
    exact expression_quoted_end (expression_cut inner hreadable hclosed room
      (Nat.le_of_succ_le_succ hroom) hdeeper others hothers fun hwhole => hcut (by rw [hwhole]))
  | .nil, _, _, _, _, _, first :: others, hfront, hcut
  | .bool _, _, _, _, _, _, first :: others, hfront, hcut
  | .num _, _, _, _, _, _, first :: others, hfront, hcut
  | .str _, _, _, _, _, _, first :: others, hfront, hcut
  | .sym _, _, _, _, _, _, first :: others, hfront, hcut
  | .range _ _ _, _, _, _, _, _, first :: others, hfront, hcut
  | .regex _, _, _, _, _, _, first :: others, hfront, hcut
  | .json _, _, _, _, _, _, first :: others, hfront, hcut
  | .pointer _, _, _, _, _, _, first :: others, hfront, hcut => by
    -- The one token of such a value is there as a whole or not at all.
    obtain ⟨rfl, hothers⟩ := List.cons_prefix_cons.mp hfront
    obtain rfl := List.prefix_nil.mp hothers
    exact absurd rfl hcut

/-- The elements of a list that is cut off before its parenthesis stop the reading where the text
ends. -/
theorem elements_cut : ∀ (items : List Value), Value.ReadableAll items → AllRegexesClosed items →
    ∀ (room : Nat), 0 < room → Value.nestingAll items ≤ room →
      (∀ depth ∈ Value.listDepthsAll items, depth + 1 < room) → ∀ (gap : List Char), Gap gap →
        ∀ (front : List Lexeme), front <+: Value.lexemesAll items → ∀ (fuel : Nat)
          (known : List Value), (spelling front).length < fuel →
            elements true (expression true room) fuel known (gap ++ spelling front) =
              failed .unexpected []
  | _, _, _, room, hlevel, _, _, gap, hgap, [], _, fuel + 1, known, _ => by
    rw [show gap ++ spelling [] = gap from List.append_nil gap]
    exact elements_end hlevel hgap fuel known
  | value :: more, hreadable, hclosed, room, hlevel, hroom, hdepths, gap, hgap, first :: others,
      hfront, fuel + 1, known, hfuel => by
    obtain ⟨hvalue, hmore⟩ := hclosed.cons
    obtain ⟨hnesting, hnestingMore⟩ := max_le_iff.mp hroom
    obtain ⟨space, hlexemes, hspace⟩ := Value.lexemesAll_cons value more
    have hwhole : value.lexemes <+: Value.lexemesAll (value :: more) :=
      ⟨_, hlexemes.symm⟩
    by_cases hread : value.lexemes <+: first :: others
    · -- The first item is read, and there is less of the text of the others.
      obtain ⟨left, hleft⟩ := hread
      rw [← hleft, hlexemes, List.prefix_append_right_inj] at hfront
      obtain ⟨gap', front, hspelling, hgap', hends, hothers⟩ := spelling_others hspace hfront
      obtain ⟨found, hfound, -⟩ := (expression_reads value hreadable.1 hvalue _
        (rendered_displayChars value) room (spelling left) hends).fits hnesting
      obtain ⟨c, tail, hfirst, hc⟩ := rendered_first hreadable.1 hvalue
        (rendered_displayChars value)
      rw [← hleft, spelling_append, Value.spelling_lexemes, hspelling, hfirst] at hfuel
      rw [← hleft, spelling_append, Value.spelling_lexemes, hfirst, List.cons_append,
        elements_cons hgap hc, ← List.cons_append, ← hfirst, hfound]
      change elements true (expression true room) fuel (found :: known) (spelling left) = _
      rw [hspelling]
      refine elements_cut more hreadable.2 hmore room hlevel hnestingMore
        (fun depth hmem => hdepths depth (List.mem_append_right _ hmem)) gap' hgap' front hothers
        fuel (found :: known) ?_
      simp only [List.length_append, List.length_cons] at hfuel
      omega
    · have hcut : first :: others <+: value.lexemes :=
        (List.prefix_or_prefix_of_prefix hfront hwhole).resolve_right hread
      obtain ⟨c, tail, hfirst, hc⟩ := spelling_begins hreadable.1 hvalue hcut
        (List.cons_ne_nil first others)
      have hstop := expression_cut value hreadable.1 hvalue room hnesting
        (fun depth hmem => hdepths depth (List.mem_append_left _ hmem)) (first :: others) hcut
        fun hequal => hread (by rw [hequal])
      rw [hfirst] at hstop ⊢
      rw [elements_cons hgap hc, hstop]
      rfl

end

/-- With one level left an empty list is read, but where it is cut off the level is missing. -/
example : expression true 1 ['(', ')'] = .ok (.list [], []) ∧
    expression true 1 ['('] = failed .tooDeep [] := ⟨rfl, rfl⟩

/-! ### Source texts -/

/-- A source text that stops where it ends is incomplete, and no character is found there. -/
theorem report_end (source : List Char) (committed : Bool) :
    (Stop.report source ⟨committed, .unexpected, []⟩).kind = .incomplete ∧
      (Stop.report source ⟨committed, .unexpected, []⟩).found = none := by
  have hend : (⟨committed, .unexpected, []⟩ : Stop).place <:+ source := List.nil_suffix
  obtain ⟨-, -, -, hfound⟩ := pointsAt_report hend
  exact ⟨rfl, hfound⟩

/-- A parenthesis between expressions closes nothing. -/
theorem expressions_close (source : List Char) (fuel : Nat) (known : List Value)
    (rest : List Char) :
    expressions true source (fuel + 1) known (')' :: rest) =
      .error (trailing source (')' :: rest)) := by
  rw [expressions, skipLayout_closing]
  rfl

/-- A value that is cut off while a parenthesis is open is incomplete. -/
theorem read_cut {value : Value} (hreadable : value.Readable) (hclosed : RegexesClosed value)
    (hroom : value.nesting ≤ maxDepth) (hdepths : ∀ depth ∈ value.listDepths, depth + 1 < maxDepth)
    {front : List Lexeme} (hfront : front <+: value.lexemes)
    (hopen : front.count .closing < front.count .opening) :
    ∃ error, read (String.ofList (spelling front)) = .error error ∧ error.kind = .incomplete ∧
      error.found = none := by
  have hnonempty : front ≠ [] := by
    rintro rfl
    exact absurd hopen (Nat.lt_irrefl 0)
  have hcut : front ≠ value.lexemes := by
    rintro rfl
    exact absurd value.lexemes_balanced hopen.ne'
  obtain ⟨c, tail, hfirst, hc⟩ := spelling_begins hreadable hclosed hfront hnonempty
  have hstop := expression_cut value hreadable hclosed maxDepth hroom hdepths front hfront hcut
  rw [hfirst] at hstop
  rw [read, readWith, String.toList_ofList, hfirst, readChars]
  cases hexpression : expression true maxDepth (c :: tail) with
  | ok result =>
    rw [hexpression] at hstop
    cases hstop
  | error stop =>
    obtain ⟨committed, trouble, place⟩ := stop
    rw [hexpression] at hstop
    obtain ⟨rfl, rfl⟩ : trouble = .unexpected ∧ place = [] := by
      simpa [commit, failed] using hstop
    rw [expressions_error (hc.skip tail) hc.parenthesis hexpression]
    exact ⟨_, rfl, report_end _ committed⟩

/-- A parenthesis after a value that can be written closes nothing. -/
theorem read_overclosed {value : Value} (hreadable : value.Readable)
    (hclosed : RegexesClosed value) (hroom : value.nesting ≤ maxDepth) (u : String) :
    ∃ error, read (value.display ++ ")" ++ u) = .error error ∧ error.kind = .trailingContent ∧
      error.found = some ')' ∧
      PointsAt (value.display ++ ")" ++ u).toList (')' :: u.toList) error := by
  have hsource : (value.display ++ ")" ++ u).toList = value.displayChars ++ ')' :: u.toList := by
    simp [Value.display]
  rw [read, readWith, hsource]
  obtain ⟨found, hfound, -⟩ := (expression_reads value hreadable hclosed _
    (rendered_displayChars value) maxDepth (')' :: u.toList) (.parenthesis _)).fits hroom
  obtain ⟨c, tail, hfirst, hc⟩ := rendered_first hreadable hclosed (rendered_displayChars value)
  rw [hfirst, List.cons_append] at hfound ⊢
  have hplace : PointsAt (c :: (tail ++ ')' :: u.toList)) (')' :: u.toList)
      (trailing (c :: (tail ++ ')' :: u.toList)) (')' :: u.toList)) :=
    pointsAt_withContext _ _ (List.suffix_append (c :: tail) _)
  have hread : readChars true (c :: (tail ++ ')' :: u.toList)) =
      .error (trailing (c :: (tail ++ ')' :: u.toList)) (')' :: u.toList)) := by
    rw [readChars, expressions_cons (hc.skip _) hc.parenthesis hfound, List.length_cons,
      expressions_close]
    rfl
  obtain ⟨before, hbefore, hoffset, hcharacter⟩ := hplace
  exact ⟨_, hread, rfl, hcharacter, before, hbefore, hoffset, hcharacter⟩

/-- What is read of a text whose parentheses are not balanced. The tokens of a display and the
spaces between them spell it. Take a value of any kind whose display is read as an equal value. If
its lists lie no deeper than sixty-two levels, what is left of its display when it is cut off after
a token while a parenthesis is open is refused as incomplete, and no character is found. Its
display with a closing parenthesis and any text after it is refused for what comes after the value,
and the character found is that parenthesis at its place. -/
theorem unbalanced_text_refused (value found : Value) (hread : read value.display = .ok found)
    (hequal : (found == value) = true) :
    String.ofList (spelling value.lexemes) = value.display ∧
    ((∀ depth ∈ value.listDepths, depth ≤ 62) → ∀ front : List Lexeme, front <+: value.lexemes →
      front.count .closing < front.count .opening →
        ∃ error, read (String.ofList (spelling front)) = .error error ∧
          error.kind = .incomplete ∧ error.found = none) ∧
    ∀ u : String, ∃ error, read (value.display ++ ")" ++ u) = .error error ∧
      error.kind = .trailingContent ∧ error.found = some ')' ∧
        PointsAt (value.display ++ ")" ++ u).toList (')' :: u.toList) error := by
  obtain ⟨hreadable, hclosed, hroom⟩ := (reads_back_iff value).mp ⟨found, hread, hequal⟩
  refine ⟨?_, fun hdepths front hfront hopen => ?_, read_overclosed hreadable hclosed hroom⟩
  · rw [Value.spelling_lexemes, Value.display]
  · have hlevels : ∀ depth ∈ value.listDepths, depth + 1 < maxDepth := by
      intro depth hmem
      have hdepth := hdepths depth hmem
      rw [maxDepth]
      omega
    exact read_cut hreadable hclosed hroom hlevels hfront hopen

end Reader

end AnyEngine

namespace Reader

/-- A call with a quoted list in it is cut off inside that list and after it, and is closed once too
often. -/
theorem unbalanced_text_refused_of_call :
    (∃ error, read "(f '(1 \"a)\"" = .error error ∧ error.kind = .incomplete ∧
        error.found = none) ∧
    (∃ error, read "(f '(1 \"a)\")" = .error error ∧ error.kind = .incomplete ∧
        error.found = none) ∧
    ∃ error, read "(f '(1 \"a)\"))) x" = .error error ∧ error.kind = .trailingContent ∧
      error.found = some ')' ∧ PointsAt "(f '(1 \"a)\"))) x".toList ") x".toList error := by
  have hread : read (Value.list [.sym "f", .quoted (.list [.num 1, .str "a)"])]).display =
      .ok (.list [.sym "f", .quoted (.list [.num 1, .str "a)"])]) := by rfl
  have hequal : ((Value.list [.sym "f", .quoted (.list [.num 1, .str "a)"])]) ==
      .list [.sym "f", .quoted (.list [.num 1, .str "a)"])]) = true := by rfl
  obtain ⟨-, hcut, hoverclosed⟩ := unbalanced_text_refused _ _ hread hequal
  have hopen := hcut (by decide)
  have hinside := hopen [.opening, .atom ['f'], .space, .quotation, .opening, .atom ['1'], .space,
    .atom ['"', 'a', ')', '"']] (by decide +kernel) (by decide)
  have hafter := hopen [.opening, .atom ['f'], .space, .quotation, .opening, .atom ['1'], .space,
    .atom ['"', 'a', ')', '"'], .closing] (by decide +kernel) (by decide)
  exact ⟨hinside, hafter, hoverclosed " x"⟩

end Reader

end ShapeLisp
