import Terminator.Proofs.LexemeSuccession

set_option autoImplicit false

namespace Terminator

def View.ofText (text : Text) : View :=
  text.map fun c => (c, false)

theorem View.text_ofText (text : Text) : View.text (View.ofText text) = text := by
  simp [View.text, View.ofText, Function.comp_def]

namespace Policy

open Cursor

def lineReasons : List Reason :=
  [.continuation, .decimalLiteral, .memberAccess, .increment, .decrement, .unaryPlus, .unaryMinus,
    .notEqual, .logicalNot, .inKeyword, .instanceofKeyword, .identifier, .newStatement]

theorem lineReason_mem (line : Text) : lineReason line ∈ lineReasons := by
  unfold lineReason wordReason
  repeat' split
  all_goals decide

theorem apart_of_mem_lineReasons {reason : Reason} (member : reason ∈ lineReasons) :
    reason ≠ .endOfInput ∧ reason ≠ .closingBrace ∧ reason ≠ .sameLine := by
  revert member
  cases reason <;> decide

theorem reason_cons_of_blank {c : Char} (blank : inlineBlank c = true) (view : View) :
    reason ((c, false) :: view) = reason view := by
  have settled : settles (c, false) = false := (settles_eq_false_iff c false).mpr ⟨blank, rfl⟩
  simp [reason, List.findIdx_cons, settled]

theorem reason_cons_of_solid {c : Char} (solid : inlineBlank c = false) (view : View) :
    reason ((c, false) :: view) =
      if c = '}' then .closingBrace
      else if Text.isLineBreak c then lineReason view.text
      else .sameLine := by
  have settled : settles (c, false) = true := by
    rw [← Bool.not_eq_false, settles_eq_false_iff]
    simp [solid]
  simp [reason, List.findIdx_cons, settled]

theorem reason_of_lineBreak {c : Char} (broken : Text.isLineBreak c = true) (line : Text) :
    reason (View.ofText (c :: line)) = lineReason line := by
  have solid : inlineBlank c = false := by simp [inlineBlank, broken]
  have apart : c ≠ '}' := by
    rintro rfl
    cases broken
  have settled := reason_cons_of_solid solid (View.ofText line)
  rwa [if_neg apart, if_pos broken, View.text_ofText] at settled

theorem reason_ofText (text : Text) :
    reason (View.ofText text) =
      match text.dropWhile Piece.isSpace with
      | [] => .endOfInput
      | c :: line =>
        if c = '}' then .closingBrace
        else if Text.isLineBreak c then lineReason line
        else .sameLine := by
  induction text with
  | nil => rfl
  | cons c rest ih =>
    cases space : Piece.isSpace c with
    | true =>
      have blank : inlineBlank c = true := by rw [← Piece.isSpace_eq, space]
      rw [List.dropWhile_cons_of_pos space, ← ih]
      exact reason_cons_of_blank blank _
    | false =>
      have solid : inlineBlank c = false := by rw [← Piece.isSpace_eq, space]
      have plain := reason_cons_of_solid solid (View.ofText rest)
      rw [View.text_ofText] at plain
      rw [List.dropWhile_cons_of_neg (by simp [space])]
      exact plain

variable {c : Char} {rest : Text}

theorem wordReason_mem (word : Text) :
    wordReason word ∈ [.inKeyword, .instanceofKeyword, .identifier] := by
  unfold wordReason
  repeat' split
  all_goals decide

theorem lineReason_cons :
    lineReason (c :: rest) =
      if c = '.' then
        if (rest.head?).any Text.isAsciiDigit then .decimalLiteral else .memberAccess
      else if c = '+' then if rest.head? = some '+' then .increment else .unaryPlus
      else if c = '-' then if rest.head? = some '-' then .decrement else .unaryMinus
      else if c = '!' then if rest.head? = some '=' then .notEqual else .logicalNot
      else if c = 'i' then wordReason ((c :: rest).takeWhile Text.isAlphabetic)
      else if c ∈ operatorMarks then .continuation
      else .newStatement := by
  by_cases special : c ∈ ['.', '+', '-', '!', 'i']
  · simp only [List.mem_cons, List.not_mem_nil, or_false] at special
    rcases special with rfl | rfl | rfl | rfl | rfl <;> rfl
  · rw [lineReason_of_plain special]
    simp only [List.mem_cons, List.not_mem_nil, or_false, not_or] at special
    simp [special]

theorem lineReason_eq_increment_iff :
    lineReason (c :: rest) = .increment ↔ (Piece.cut c rest).1 = some .increment := by
  have word := wordReason_mem ((c :: rest).takeWhile Text.isAlphabetic)
  rw [Piece.kind_eq_increment_iff, lineReason_cons]
  grind

theorem lineReason_eq_decrement_iff :
    lineReason (c :: rest) = .decrement ↔ (Piece.cut c rest).1 = some .decrement := by
  have word := wordReason_mem ((c :: rest).takeWhile Text.isAlphabetic)
  rw [Piece.kind_eq_decrement_iff, lineReason_cons]
  grind

theorem lineReason_eq_decimalLiteral_iff :
    lineReason (c :: rest) = .decimalLiteral ↔ (Piece.cut c rest).1 = some .number ∧ c = '.' := by
  have word := wordReason_mem ((c :: rest).takeWhile Text.isAlphabetic)
  rw [lineReason_cons]
  constructor
  · intro literal
    have point : c = '.' ∧ (rest.head?).any Text.isAsciiDigit = true := by grind
    obtain ⟨rfl, digit⟩ := point
    exact ⟨Piece.kind_eq_number_of_point.mpr digit, rfl⟩
  · rintro ⟨number, rfl⟩
    simp [Piece.kind_eq_number_of_point.mp number]

theorem lineReason_of_mark (mark : c ∈ ['/', '\x60']) : lineReason (c :: rest) = .continuation := by
  simp only [List.mem_cons, List.not_mem_nil, or_false] at mark
  rcases mark with rfl | rfl <;> rfl

-- What holds of no character that continues a statement holds of the start of a new one only.
theorem lineReason_of_class {holds : Char → Bool}
    (apart : (['.', '+', '-', '!', 'i'] ++ operatorMarks).all (!holds ·) = true)
    (here : holds c = true) : lineReason (c :: rest) = .newStatement := by
  have other (d : Char) (member : d ∈ ['.', '+', '-', '!', 'i'] ++ operatorMarks) : d ≠ c := by
    rintro rfl
    simpa [here] using List.all_eq_true.mp apart d member
  have plain : c ∉ ['.', '+', '-', '!', 'i'] :=
    fun member => other c (List.mem_append_left _ member) rfl
  have unmarked : c ∉ operatorMarks := fun member => other c (List.mem_append_right _ member) rfl
  rw [lineReason_of_plain plain, if_neg unmarked]

theorem lineReason_of_isBlank (blank : Text.isBlank c = true) :
    lineReason (c :: rest) = .newStatement := by
  have apart : (['.', '+', '-', '!', 'i'] ++ operatorMarks).all (!Text.isBlank ·) = true := by
    decide
  exact lineReason_of_class apart blank

theorem lineReason_of_closer (closer : c ∈ [')', ']', '}']) :
    lineReason (c :: rest) = .newStatement := by
  simp only [List.mem_cons, List.not_mem_nil, or_false] at closer
  rcases closer with rfl | rfl | rfl <;> rfl

end Policy

theorem IndexedCursor.evaluate_eq_reason {accepted : TokenSet}
    (wanted : accepted.contains .automaticSemicolon = true) {cursor : IndexedCursor} :
    (cursor.evaluate accepted).1 = Verdict.ofReason (Policy.reason cursor.view) := by
  rw [evaluate_eq wanted]

namespace SourceReader

theorem visibleBefore_append (front back : Text) :
    visibleBefore (front ++ back) none front.byteLength = front.length := by
  have all : visiblePoints (front ++ back) none = Text.located (front ++ back) :=
    List.filter_eq_self.mpr fun _ _ => decide_eq_true trivial
  rw [Text.located, Text.locatedFrom_append, Nat.zero_add] at all
  rw [visibleBefore_of_cut all, Text.length_locatedFrom]
  · intro point member
    simpa using (Text.bounds_of_mem_locatedFrom member).2
  · intro point member
    exact (Text.bounds_of_mem_locatedFrom member).1

theorem view_visibleCursor_append (front back : Text) :
    (Terminator.visibleCursor (front ++ back) none front.byteLength).view = View.ofText back := by
  have points : (back.zipIdx front.length).map (fun point => (point.1, false)) =
      View.ofText back := by
    conv_rhs => rw [View.ofText, ← List.zipIdx_map_fst front.length back, List.map_map]
    rfl
  simpa [IndexedCursor.view, Terminator.visibleCursor, visibleBefore_append, visibleText,
    spanPlaces, List.zipIdx_append] using points

theorem evaluate_behind (front back : Text) :
    (((whole (front ++ back)).seek front.byteLength).evaluate (.singleton .automaticSemicolon)).1 =
      Verdict.ofReason (Policy.reason (View.ofText back)) := by
  have start : (whole (front ++ back)).Sound := sound_ofScope (front ++ back) none
  have placed := seek_visibleCursor _ front.byteLength (normalScope_of_sound start)
  have wanted : (TokenSet.singleton .automaticSemicolon).contains .automaticSemicolon = true := rfl
  rw [(evaluate_visibleCursor (sound_seek start front.byteLength) _).1, placed,
    IndexedCursor.evaluate_eq_reason wanted, ← view_visibleCursor_append]
  rfl

end SourceReader

namespace Lexeme

/-- Whether all text from one offset up to another belongs to tokens, so that none is dropped. -/
def Covered (source : Text) (start stop : Nat) : Prop :=
  ∀ offset, start ≤ offset → offset < stop →
    ∃ lexeme ∈ ofText source, lexeme.start ≤ offset ∧ offset < lexeme.stop

instance (source : Text) (start stop : Nat) : Decidable (Covered source start stop) :=
  have (offset : Nat) :
      Decidable (∃ lexeme ∈ ofText source, lexeme.start ≤ offset ∧ offset < lexeme.stop) :=
    List.decidableBEx (fun lexeme => lexeme.start ≤ offset ∧ offset < lexeme.stop) (ofText source)
  Nat.decidableLoHi start stop _

def firstSolid? (lexemes : List Lexeme) : Option Lexeme :=
  lexemes.find? fun lexeme => lexeme.kind ≠ .whitespace

theorem firstSolid?_append {spaces rest : List Lexeme}
    (blank : ∀ lexeme ∈ spaces, lexeme.kind = .whitespace) :
    firstSolid? (spaces ++ rest) = firstSolid? rest := by
  have none : firstSolid? spaces = none := by
    apply List.find?_eq_none.mpr
    intro lexeme member
    simpa using blank lexeme member
  rw [firstSolid?, List.find?_append, ← firstSolid?, none, Option.none_or, firstSolid?]

theorem firstSolid?_behind {start : Nat} {back : Text} :
    firstSolid? (Piece.lexemesFrom start (Piece.ofText back)) =
      firstSolid? (Piece.lexemesFrom (start + Text.byteLength (back.takeWhile Piece.isSpace))
        (Piece.ofText (back.dropWhile Piece.isSpace))) := by
  obtain ⟨spaces, parts, blank⟩ := Piece.exists_spaces_passed start back
  rw [parts]
  exact firstSolid?_append fun lexeme member => (blank lexeme member).1

theorem firstSolid?_of_spaces {start : Nat} {back : Text}
    (blank : back.dropWhile Piece.isSpace = []) :
    firstSolid? (Piece.lexemesFrom start (Piece.ofText back)) = none := by
  rw [firstSolid?_behind, blank]
  simp [firstSolid?, Piece.ofText, Piece.lexemesFrom]

variable {source back line : Text} {before : List Lexeme} {lexeme : Lexeme} {c : Char}

/-- The next token other than a space is cut out of the text behind the spaces, since a piece there
that makes no token would leave its first offset uncovered. -/
theorem exists_firstSolid?
    (split : ofText source =
      before ++ lexeme :: Piece.lexemesFrom lexeme.stop (Piece.ofText back))
    (ends : lexeme.stop + back.byteLength = source.byteLength)
    (covered : Covered source lexeme.stop
      ((firstSolid? (Piece.lexemesFrom lexeme.stop (Piece.ofText back))).elim source.byteLength
        (·.start)))
    (solid : back.dropWhile Piece.isSpace = c :: line) :
    ∃ next, firstSolid? (Piece.lexemesFrom lexeme.stop (Piece.ofText back)) = some next ∧
      (Piece.cut c line).1 = some next.kind ∧
      (Text.isLineBreak c = true → next.stop + Text.byteLength line = source.byteLength ∧
        ∀ other ∈ ofText source, next.stop < other.stop →
          other ∈ Piece.lexemesFrom next.stop (Piece.ofText line)) := by
  obtain ⟨spaces, parts, blank⟩ := Piece.exists_spaces_passed lexeme.stop back
  have first := @firstSolid?_behind lexeme.stop back
  have length := congrArg Text.byteLength (@List.takeWhile_append_dropWhile _ Piece.isSpace back)
  rw [solid] at parts first length
  rw [Text.byteLength_append, Text.byteLength_cons] at length
  generalize place : lexeme.stop + Text.byteLength (back.takeWhile Piece.isSpace) = begin at *
  cases given : (Piece.cut c line).1 with
  | none =>
    have beyond := fun other => @Piece.start_lt_of_dropped begin c line other given
    have inside : begin < (firstSolid? (Piece.lexemesFrom lexeme.stop (Piece.ofText back))).elim
        source.byteLength (·.start) := by
      rw [first]
      cases next : firstSolid? (Piece.lexemesFrom begin (Piece.ofText (c :: line))) with
      | some other => exact beyond other (List.mem_of_find?_eq_some next)
      | none =>
        have wide := c.utf8Size_pos
        simp only [Option.elim]
        omega
    obtain ⟨other, member, starts, stops⟩ := covered begin (by omega) inside
    have later := mem_behind split member (by omega)
    rw [parts] at later
    rcases List.mem_append.mp later with space | rest
    · have stop := (blank other space).2
      omega
    · have start := beyond other rest
      omega
  | some kind =>
    have notBlank : kind ≠ .whitespace := by
      rintro rfl
      have head := List.head?_dropWhile_not Piece.isSpace back
      rw [solid] at head
      simp [Piece.kind_eq_whitespace_iff.mp given] at head
    rw [Piece.lexemesFrom_of_kind given] at first parts
    refine ⟨_, first.trans (by simp [firstSolid?, notBlank]; rfl), rfl, fun broken => ?_⟩
    simp only [Piece.cut_lineBreak broken, List.take_zero, List.drop_zero] at parts ⊢
    constructor
    · simp only [stop, Text.byteLength_cons, Text.byteLength_nil]
      omega
    · intro other member later
      rw [parts, ← List.cons_append, ← List.append_assoc] at split
      exact mem_behind split member later

theorem lineReason_of_first {start : Nat} {other : Lexeme}
    (member : other ∈ Piece.lexemesFrom start (Piece.ofText line)) (first : other.start = start) :
    (Policy.lineReason line = .increment ↔ other.kind = .increment) ∧
      (Policy.lineReason line = .decrement ↔ other.kind = .decrement) ∧
      (Policy.lineReason line = .decimalLiteral ↔
        other.kind = .number ∧ other.text.head? = some '.') ∧
      (other.isComment = true ∨ other.kind = .templateLiteral →
        Policy.lineReason line = .continuation) ∧
      (other.kind ∈ [.whitespace, .lineBreak, .closeParen, .closeBracket, .closeBrace] →
        Policy.lineReason line = .newStatement) := by
  obtain ⟨d, rest, rfl, kind, text⟩ := Piece.exists_cut_of_start member first
  have head : other.text.head? = some d := by rw [text, List.head?_cons]
  have begins := Piece.begins_cut d rest
  rw [kind] at begins
  refine ⟨?_, ?_, ?_, ?_, ?_⟩
  · rw [Policy.lineReason_eq_increment_iff, kind, Option.some_inj]
  · rw [Policy.lineReason_eq_decrement_iff, kind, Option.some_inj]
  · rw [Policy.lineReason_eq_decimalLiteral_iff, kind, head, Option.some_inj, Option.some_inj]
  · intro continues
    apply Policy.lineReason_of_mark
    cases given : other.kind <;> simp [isComment, given] at continues
    all_goals
      rw [given] at begins
      simp only [Piece.Begins] at begins
      simp [begins]
  · intro ends
    cases given : other.kind <;> simp [given] at ends
    case whitespace =>
      rw [given] at begins
      exact Policy.lineReason_of_isBlank (Piece.isBlank_of_isSpace begins)
    case lineBreak =>
      rw [given] at begins
      exact Policy.lineReason_of_isBlank (Text.isBlank_of_isLineBreak begins)
    all_goals
      apply Policy.lineReason_of_closer
      rw [given] at begins
      simp only [Piece.Begins] at begins
      simp [begins]

/-- The reason that an evaluation gives behind a token is told by the tokens that follow it. -/
theorem evaluate_agrees_with_lexemes (source : Text) (before after : List Lexeme) (lexeme : Lexeme)
    (split : ofText source = before ++ lexeme :: after)
    (covered : Covered source lexeme.stop ((firstSolid? after).elim source.byteLength (·.start))) :
    let answer := ((SourceReader.whole source).seek lexeme.stop).evaluate
      (.singleton .automaticSemicolon)
    let reason := answer.1.reason
    (reason = .endOfInput ↔ firstSolid? after = none) ∧
      (reason = .closingBrace ↔ ∃ next, firstSolid? after = some next ∧ next.kind = .closeBrace) ∧
      (reason = .sameLine ↔
        ∃ next, firstSolid? after = some next ∧ next.kind ≠ .lineBreak ∧ next.kind ≠ .closeBrace) ∧
      (reason ∈ Policy.lineReasons ↔
        ∃ next, firstSolid? after = some next ∧ next.kind = .lineBreak) ∧
      ∀ next, firstSolid? after = some next → next.kind = .lineBreak →
        (next.stop = source.byteLength → reason = .newStatement) ∧
          ∀ other ∈ ofText source, other.start = next.stop →
            (reason = .increment ↔ other.kind = .increment) ∧
              (reason = .decrement ↔ other.kind = .decrement) ∧
              (reason = .decimalLiteral ↔
                other.kind = .number ∧ other.text.head? = some '.') ∧
              (other.isComment = true ∨ other.kind = .templateLiteral → reason = .continuation) ∧
              (other.kind ∈ [.whitespace, .lineBreak, .closeParen, .closeBracket, .closeBrace] →
                reason = .newStatement) := by
  intro answer reason
  obtain ⟨front, back, rfl, stop, rfl⟩ := exists_behind split
  have given : reason = Policy.reason (View.ofText back) := by
    simp only [reason, answer, ← stop, SourceReader.evaluate_behind]
    rfl
  have ends : lexeme.stop + back.byteLength = (front ++ back).byteLength := by
    rw [← stop, Text.byteLength_append]
  rw [Policy.reason_ofText] at given
  cases solid : back.dropWhile Piece.isSpace with
  | nil =>
    rw [solid] at given
    simp [given, firstSolid?_of_spaces solid, Policy.lineReasons]
  | cons c line =>
    obtain ⟨next, found, kind, broken⟩ := exists_firstSolid? split ends covered solid
    have closes := @Piece.kind_eq_closeBrace_iff c line
    have breaks := @Piece.kind_eq_lineBreak_iff c line
    rw [solid] at given
    rw [kind, Option.some_inj] at closes breaks
    simp only [found, Option.some.injEq, exists_eq_left', reduceCtorEq, iff_false, forall_eq',
      closes, breaks, ne_eq]
    by_cases brace : c = '}'
    · subst brace
      have inline : Text.isLineBreak '}' = false := by decide
      simp [given, inline, Policy.lineReasons]
    · by_cases lineBreak : Text.isLineBreak c = true
      · have settled : reason = Policy.lineReason line := by simpa [brace, lineBreak] using given
        have member := Policy.lineReason_mem line
        have apart := Policy.apart_of_mem_lineReasons member
        obtain ⟨rest, behind⟩ := broken lineBreak
        rw [settled]
        refine ⟨apart.1, by simp [apart, brace], by simp [apart, lineBreak],
          by simp [member, lineBreak], fun _ => ⟨?_, ?_⟩⟩
        · intro ended
          have empty : line = [] := by
            by_contra more
            have longer := Text.byteLength_pos_of_ne_nil more
            omega
          rw [empty]
          rfl
        · intro other inSource first
          have later : next.stop < other.stop := by
            rw [← first]
            exact start_lt_stop inSource
          exact lineReason_of_first (behind other inSource later) first
      · simp [given, brace, lineBreak, Policy.lineReasons]

theorem reason_before_increment :
    let source : Text := ['x', ' ', '\n', '+', '+', 'y']
    let before : List Lexeme := []
    let lexeme : Lexeme := { kind := .word, start := 0, text := ['x'] }
    let after : List Lexeme :=
      [⟨.whitespace, 1, [' ']⟩, ⟨.lineBreak, 2, ['\n']⟩, ⟨.increment, 3, ['+', '+']⟩,
        ⟨.word, 5, ['y']⟩]
    ofText source = before ++ lexeme :: after ∧
      Covered source lexeme.stop ((firstSolid? after).elim source.byteLength (·.start)) ∧
      (((SourceReader.whole source).seek lexeme.stop).evaluate
        (.singleton .automaticSemicolon)).1.reason = .increment := by
  intro source before lexeme after
  have split : ofText source = before ++ lexeme :: after := by decide +kernel
  have covered : Covered source lexeme.stop
      ((firstSolid? after).elim source.byteLength (·.start)) := by decide +kernel
  have agrees := evaluate_agrees_with_lexemes source before after lexeme split covered
  have line := agrees.2.2.2.2 ⟨.lineBreak, 2, ['\n']⟩ rfl rfl
  have first := line.2 ⟨.increment, 3, ['+', '+']⟩ (by rw [split]; decide) rfl
  exact ⟨split, covered, first.1.mpr rfl⟩

end Lexeme

end Terminator
