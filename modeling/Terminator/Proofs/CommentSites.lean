import Terminator.Proofs.LexerAgreement
import Terminator.Proofs.SurveySites

set_option autoImplicit false

namespace Terminator

namespace Lexeme

def Significant (lexeme : Lexeme) : Prop :=
  lexeme.isTrivia = false ∧ lexeme.isComment = false

instance : DecidablePred Significant :=
  fun lexeme => inferInstanceAs (Decidable (lexeme.isTrivia = false ∧ lexeme.isComment = false))

variable {start : Nat} {c : Char} {rest line back : Text} {lexeme comment : Lexeme}

theorem exists_first_of_kind {kind : LexemeKind} (given : (Piece.cut c rest).1 = some kind)
    (member : lexeme ∈ Piece.lexemesFrom start (Piece.ofText (c :: rest))) :
    ∃ first ∈ Piece.lexemesFrom start (Piece.ofText (c :: rest)),
      first.kind = kind ∧ first.stop ≤ lexeme.stop := by
  rw [Piece.lexemesFrom_of_kind given] at member ⊢
  refine ⟨_, List.mem_cons_self, rfl, ?_⟩
  rcases List.mem_cons.mp member with rfl | later
  · exact Nat.le_refl _
  · exact Nat.le_trans (start_le_of_mem_lexemesFrom later) (Nat.le_add_right _ _)

-- The tokens up to a new line are blanks and the line break, and the others begin behind it.
theorem exists_line_passed (ahead : back.dropWhile Piece.isSpace = c :: line)
    (broken : Text.isLineBreak c = true) :
    ∃ passed : List Lexeme,
      Piece.lexemesFrom start (Piece.ofText back) =
          passed ++ Piece.lexemesFrom
            (start + Text.byteLength (back.takeWhile Piece.isSpace ++ [c])) (Piece.ofText line) ∧
        ∀ lexeme ∈ passed, lexeme.isTrivia = true ∧
          lexeme.start < start + Text.byteLength (back.takeWhile Piece.isSpace ++ [c]) := by
  obtain ⟨spaces, parts, blank⟩ := Piece.exists_spaces_passed start back
  have breaks : (Piece.cut c line).1 = some .lineBreak := Piece.kind_eq_lineBreak_iff.mpr broken
  have wide := c.utf8Size_pos
  rw [ahead, Piece.lexemesFrom_of_kind breaks, Piece.cut_lineBreak broken,
    List.append_cons] at parts
  rw [Text.byteLength_append, ← Nat.add_assoc]
  refine ⟨_, parts, fun lexeme member => ?_⟩
  rcases List.mem_append.mp member with space | lineBreak
  · have inside : lexeme ∈ Piece.lexemesFrom start (Piece.ofText back) := by simp [parts, space]
    have less := start_lt_stop_of_mem_lexemesFrom (fun _ => Piece.text_ne_nil) inside
    obtain ⟨kind, stop⟩ := blank lexeme space
    exact ⟨by simp [isTrivia, kind], by omega⟩
  · obtain rfl := List.mem_singleton.mp lineBreak
    exact ⟨rfl, by simp only [Text.byteLength_cons]; omega⟩

end Lexeme

namespace Policy

variable {start : Nat} {c : Char} {rest line back : Text} {first other : Lexeme}

-- Text is dropped from an open quote or comment on, and where a word would begin with a numeral.
theorem lineReason_of_dropped (dropped : (Piece.cut c rest).1 = none)
    (inserts : (lineReason (c :: rest)).decision = .insert) :
    lineReason (c :: rest) = .newStatement := by
  have begins := Piece.begins_cut c rest
  rw [dropped] at begins
  rcases begins with numeral | mark
  · have apart : (['.', '+', '-', '!', 'i'] ++ operatorMarks).all (!Text.isNumeral ·) = true := by
      decide +kernel
    exact lineReason_of_class apart numeral
  · simp only [List.mem_cons, List.not_mem_nil, or_false] at mark
    rcases mark with rfl | rfl | rfl | rfl
    · cases inserts
    · rfl
    · rfl
    · cases inserts

theorem significant_of_inserts (kind : (Piece.cut c rest).1 = some first.kind)
    (solid : Text.isBlank c = false) (inserts : (lineReason (c :: rest)).decision = .insert) :
    first.Significant := by
  have begins := Piece.begins_cut c rest
  have noComment (slash : c = '/') : False := by
    rw [lineReason_of_mark (by simp [slash])] at inserts
    cases inserts
  rw [kind] at begins
  cases given : first.kind <;> rw [given] at begins
  case whitespace => simp [Piece.isBlank_of_isSpace begins] at solid
  case lineBreak => simp [Text.isBlank_of_isLineBreak begins] at solid
  case lineComment => exact (noComment begins.1).elim
  case blockComment => exact (noComment begins.1).elim
  all_goals simp [Lexeme.Significant, Lexeme.isTrivia, Lexeme.isComment, given]

theorem significant_or_apart_on_line (inserts : (lineReason line).decision = .insert)
    (member : other ∈ Piece.lexemesFrom start (Piece.ofText line)) :
    (∃ first ∈ Piece.lexemesFrom start (Piece.ofText line),
        first.Significant ∧ first.stop ≤ other.stop) ∨
      lineReason line = .newStatement ∧ ∃ c rest, line = c :: rest ∧
        (Text.isBlank c = true ∨
          ∀ first ∈ Piece.lexemesFrom start (Piece.ofText line), first.start ≠ start) := by
  cases line with
  | nil => simp [Piece.ofText, Piece.lexemesFrom] at member
  | cons c rest =>
    by_cases blank : Text.isBlank c = true
    · exact .inr ⟨lineReason_of_isBlank blank, c, rest, rfl, .inl blank⟩
    · cases kind : (Piece.cut c rest).1 with
      | none =>
        refine .inr ⟨lineReason_of_dropped kind inserts, c, rest, rfl, .inr fun first inLine => ?_⟩
        exact Nat.ne_of_gt (Piece.start_lt_of_dropped kind inLine)
      | some given =>
        obtain ⟨first, inLine, rfl, early⟩ := Lexeme.exists_first_of_kind kind member
        have significant := significant_of_inserts kind (by simpa using blank) inserts
        exact .inl ⟨first, inLine, significant, early⟩

theorem significant_or_apart (inserts : (reason (View.ofText back)).decision = .insert)
    (member : other ∈ Piece.lexemesFrom start (Piece.ofText back))
    (solid : other.isTrivia = false) :
    (∃ first ∈ Piece.lexemesFrom start (Piece.ofText back),
        first.Significant ∧ first.stop ≤ other.stop) ∨
      reason (View.ofText back) = .newStatement ∧
        ∃ blanks lineBreak c line, back = blanks ++ lineBreak :: c :: line ∧
          blanks.all Cursor.inlineBlank = true ∧ Text.isLineBreak lineBreak = true ∧
          (Text.isBlank c = true ∨ ∀ first ∈ Piece.lexemesFrom start (Piece.ofText back),
            first.start ≠ start + Text.byteLength (blanks ++ [lineBreak])) := by
  obtain ⟨spaces, parts, blank⟩ := Piece.exists_spaces_passed start back
  have notSpace (space : Lexeme) (passed : space ∈ spaces) : space.isTrivia ≠ false := by
    simp [Lexeme.isTrivia, (blank space passed).1]
  have whole := @List.takeWhile_append_dropWhile _ Piece.isSpace back
  have blanks : (back.takeWhile Piece.isSpace).all Cursor.inlineBlank = true := by
    simp only [← funext Piece.isSpace_eq, List.all_takeWhile]
  rw [reason_ofText] at inserts ⊢
  -- Behind the blanks comes a closing brace, which is significant, or a line break. All else rejects.
  cases ahead : back.dropWhile Piece.isSpace with
  | nil =>
    rw [parts, ahead] at member
    rcases List.mem_append.mp member with space | later
    · exact absurd solid (notSpace other space)
    · simp [Piece.ofText, Piece.lexemesFrom] at later
  | cons c line =>
    rw [ahead] at whole inserts
    by_cases brace : c = '}'
    · have closes := (@Piece.kind_eq_closeBrace_iff c line).mpr brace
      rw [parts, ahead] at member
      have inSolid := (List.mem_append.mp member).resolve_left
        fun space => notSpace other space solid
      obtain ⟨first, here, kind, early⟩ := Lexeme.exists_first_of_kind closes inSolid
      refine .inl ⟨first, ?_, ?_, early⟩
      · rw [parts, ahead]
        exact List.mem_append_right _ here
      · simp [Lexeme.Significant, Lexeme.isTrivia, Lexeme.isComment, kind]
    · by_cases broken : Text.isLineBreak c = true
      · obtain ⟨passed, parts, early⟩ := @Lexeme.exists_line_passed start c line back ahead broken
        simp only [brace, broken, if_false, if_true] at inserts ⊢
        rw [parts] at member ⊢
        have inLine := (List.mem_append.mp member).resolve_left fun before => by
          rw [(early other before).1] at solid
          cases solid
        rcases significant_or_apart_on_line inserts inLine with
          ⟨first, here, counts, before⟩ | ⟨newStatement, d, rest, rfl, apart⟩
        · exact .inl ⟨first, List.mem_append_right _ here, counts, before⟩
        · refine .inr ⟨newStatement, _, c, d, rest, whole.symm, blanks, broken,
            apart.imp_right fun later first member => ?_⟩
          rcases List.mem_append.mp member with before | here
          · exact Nat.ne_of_lt (early first before).2
          · exact later first here
      · simp [brace, broken, Reason.decision] at inserts

end Policy

/-- Whether the line ends at an offset, and the next one begins with a blank or with text that is
part of no token. -/
def Text.LineBeginsApart (source : Text) (offset : Nat) : Prop :=
  ∃ blanks lineBreak c line, source.dropBytes offset = blanks ++ lineBreak :: c :: line ∧
    blanks.all Cursor.inlineBlank = true ∧ isLineBreak lineBreak = true ∧
    (isBlank c = true ∨ ∀ lexeme ∈ Lexeme.ofText source,
      lexeme.start ≠ offset + byteLength (blanks ++ [lineBreak]))

namespace Survey

theorem freshInsertion_behind (front back : Text) :
    freshInsertion (front ++ back) none front.byteLength =
      if canEndAfter (front ++ back) none
            ((Lexeme.ofText (front ++ back)).filter (·.stop ≤ front.byteLength)) = true ∧
          (Policy.reason (View.ofText back)).decision = .insert then
        some
          { offset := front.byteLength
            place := (front ++ back).place front.byteLength
            reason := Policy.reason (View.ofText back) }
      else none := by
  have verdict := SourceReader.evaluate_behind front back
  have position : ((SourceReader.whole (front ++ back)).seek front.byteLength).position =
      front.byteLength :=
    Text.floorBoundary_eq_self (Text.isBoundary_iff.mpr ⟨front, back, rfl, rfl⟩)
  simp only [freshInsertion, SourceReader.ofScope, verdict, position, Verdict.isInsert,
    Verdict.ofReason, Bool.and_eq_true, decide_eq_true_eq]

theorem reason_of_freshInsertion {front back : Text} {insertion : Insertion}
    (fresh : freshInsertion (front ++ back) none front.byteLength = some insertion) :
    insertion.reason = Policy.reason (View.ofText back) ∧ insertion.reason.decision = .insert := by
  rw [freshInsertion_behind] at fresh
  split at fresh
  next inserts =>
    cases fresh
    exact ⟨rfl, inserts.2⟩
  next => cases fresh

end Survey

namespace Report

variable {source : Text} {mode : SiteMode} {insertion : Insertion}

theorem exists_site_of_insertion (found : insertion ∈ (ofSource source mode none).insertions) :
    ∃ before lexeme, Lexeme.ofText source = before ++ lexeme ::
        Piece.lexemesFrom lexeme.stop (Piece.ofText (source.dropBytes lexeme.stop)) ∧
      lexeme.isTrivia = false ∧ insertion.offset = lexeme.stop ∧
      insertion.reason = Policy.reason (View.ofText (source.dropBytes lexeme.stop)) ∧
      insertion.reason.decision = .insert := by
  rw [insertions_ofSource, List.mem_filterMap] at found
  obtain ⟨lexeme, site, fresh⟩ := found
  obtain ⟨member, solid⟩ := List.mem_filter.mp site
  obtain ⟨before, after, split⟩ := List.append_of_mem member
  obtain ⟨front, back, rfl, stop, rfl⟩ := Lexeme.exists_behind split
  have offset : insertion.offset = lexeme.stop := by
    rw [Survey.offset_of_freshInsertion fresh]
    exact Text.floorBoundary_eq_self (Lexeme.isBoundary_stop member)
  have behind : (front ++ back).dropBytes lexeme.stop = back := by
    rw [← stop, Text.dropBytes_byteLength]
  rw [← stop] at fresh
  simp only [Survey.isSite, Bool.and_eq_true, Bool.not_eq_true'] at solid
  refine ⟨before, lexeme, ?_⟩
  rw [behind]
  exact ⟨split, solid.1.1, offset, Survey.reason_of_freshInsertion fresh⟩

/-- Between two insertions a token of a statement ends, unless the second one is behind a comment
and the line behind the first one is followed by a line that begins apart. -/
theorem significant_between_insertions (source : Text) (mode : SiteMode) (first second : Insertion)
    (here : first ∈ (ofSource source mode none).insertions)
    (there : second ∈ (ofSource source mode none).insertions)
    (less : first.offset < second.offset) :
    (∃ lexeme ∈ Lexeme.ofText source, lexeme.Significant ∧
        first.offset < lexeme.stop ∧ lexeme.stop ≤ second.offset) ∨
      (∃ comment ∈ Lexeme.ofText source, comment.isComment = true ∧
          comment.stop = second.offset) ∧
        first.reason = .newStatement ∧ source.LineBeginsApart first.offset := by
  obtain ⟨before, lexeme, split, _, start, reason, inserts⟩ := exists_site_of_insertion here
  obtain ⟨_, other, split', solid, stop, _, _⟩ := exists_site_of_insertion there
  have member : other ∈ Lexeme.ofText source := by simp [split']
  have later : other ∈ Piece.lexemesFrom lexeme.stop
      (Piece.ofText (source.dropBytes lexeme.stop)) :=
    Lexeme.mem_behind split member (by omega)
  have behind {token : Lexeme} (after : token ∈ Piece.lexemesFrom lexeme.stop
      (Piece.ofText (source.dropBytes lexeme.stop))) :
      token ∈ Lexeme.ofText source ∧ first.offset < token.stop := by
    have whole : token ∈ Lexeme.ofText source := by simp [split, after]
    have further := Lexeme.start_le_of_mem_lexemesFrom after
    have wide := Lexeme.start_lt_stop whole
    exact ⟨whole, by omega⟩
  cases comment : other.isComment with
  | false => exact .inl ⟨other, member, ⟨solid, comment⟩, by omega, by omega⟩
  | true =>
    rw [reason] at inserts
    rcases Policy.significant_or_apart inserts later solid with
      ⟨token, after, significant, early⟩ |
        ⟨newStatement, blanks, lineBreak, c, line, whole, inline, broken, apart⟩
    · obtain ⟨inSource, further⟩ := behind after
      exact .inl ⟨token, inSource, significant, further, by omega⟩
    · refine .inr ⟨⟨other, member, comment, stop.symm⟩, reason.trans newStatement,
        blanks, lineBreak, c, line, by rw [start, whole], inline, broken,
        apart.imp_right fun unopened token inSource first => ?_⟩
      have wide := Lexeme.start_lt_stop inSource
      exact unopened token (Lexeme.mem_behind split inSource (by omega)) (by omega)

-- Both insertions are new statements, and there is only one statement.
theorem comment_repeats_insertion :
    let source : Text := ['a', '\n', '\n', '/', '/', ' ', 'c', '\n']
    (ofSource source .tokenEnd none).insertions =
        [⟨1, ⟨1, 2⟩, .newStatement⟩, ⟨7, ⟨3, 5⟩, .newStatement⟩] ∧
      ¬ ∃ lexeme ∈ Lexeme.ofText source, lexeme.Significant ∧
        1 < lexeme.stop ∧ lexeme.stop ≤ 7 := by
  decide +kernel

theorem line_begins_apart_before_comment :
    let source : Text := ['a', '\n', '\n', '/', '/', ' ', 'c', '\n']
    let first : Insertion := ⟨1, ⟨1, 2⟩, .newStatement⟩
    let second : Insertion := ⟨7, ⟨3, 5⟩, .newStatement⟩
    first ∈ (ofSource source .tokenEnd none).insertions ∧
      second ∈ (ofSource source .tokenEnd none).insertions ∧
      source.LineBeginsApart first.offset := by
  intro source first second
  have here : first ∈ (ofSource source .tokenEnd none).insertions := by decide +kernel
  have there : second ∈ (ofSource source .tokenEnd none).insertions := by decide +kernel
  have alone : ¬ ∃ lexeme ∈ Lexeme.ofText source, lexeme.Significant ∧
      first.offset < lexeme.stop ∧ lexeme.stop ≤ second.offset := by decide +kernel
  have less : first.offset < second.offset := by decide
  have between := significant_between_insertions source .tokenEnd first second here there less
  exact ⟨here, there, (between.resolve_left alone).2.2⟩

end Report

end Terminator
