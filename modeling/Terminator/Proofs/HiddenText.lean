import Terminator.Proofs.PieceBoundaries
import Terminator.Proofs.SpanCoverage

set_option autoImplicit false

namespace Terminator

structure AlikeWithin (spans : List Span) (first second : Text) : Prop where
  length : first.byteLength = second.byteLength
  cut : ∀ span ∈ spans, first.IsBoundary span.start ∧ first.IsBoundary span.stop
  cut' : ∀ span ∈ spans, second.IsBoundary span.start ∧ second.IsBoundary span.stop
  text : ∀ span ∈ spans, first.slice span.start span.stop = second.slice span.start span.stop

namespace AlikeWithin

instance (spans : List Span) (first second : Text) : Decidable (AlikeWithin spans first second) :=
  decidable_of_iff
    (first.byteLength = second.byteLength ∧
      (∀ span ∈ spans, first.IsBoundary span.start ∧ first.IsBoundary span.stop) ∧
      (∀ span ∈ spans, second.IsBoundary span.start ∧ second.IsBoundary span.stop) ∧
      ∀ span ∈ spans, first.slice span.start span.stop = second.slice span.start span.stop)
    ⟨fun ⟨length, cut, cut', text⟩ => ⟨length, cut, cut', text⟩,
      fun alike => ⟨alike.length, alike.cut, alike.cut', alike.text⟩⟩

variable {spans : List Span} {first second : Text}

theorem visible_eq (alike : AlikeWithin spans first second) :
    Span.visible first spans = Span.visible second spans := by
  have widened (source : Text)
      (cut : ∀ span ∈ spans, source.IsBoundary span.start ∧ source.IsBoundary span.stop) :
      spans.map (Span.widen source) = spans := by
    conv_rhs => rw [← List.map_id spans]
    apply List.map_congr_left
    intro span member
    obtain ⟨start, stop⟩ := cut span member
    rw [Span.widen, Text.floorBoundary_eq_self start, Text.ceilBoundary_eq_self stop]
    rfl
  rw [Span.visible, Span.visible, widened first alike.cut, widened second alike.cut']

theorem located_iff (alike : AlikeWithin spans first second) {span : Span} (member : span ∈ spans)
    {point : Nat × Char} (inside : span.start ≤ point.1 ∧ point.1 < span.stop) :
    point ∈ first.located ↔ point ∈ second.located := by
  obtain ⟨start, stop⟩ := alike.cut span member
  obtain ⟨start', stop'⟩ := alike.cut' span member
  have ordered : span.start ≤ span.stop := by omega
  have here := @Text.mem_locatedFrom_slice first _ _ start stop ordered point
  have here' := @Text.mem_locatedFrom_slice second _ _ start' stop' ordered point
  rw [alike.text span member, here'] at here
  simpa [inside] using here.symm

theorem visible (alike : AlikeWithin spans first second) :
    AlikeWithin (Span.visible first spans) first second := by
  have normal := Span.normal_visible first spans
  have normal' := Span.normal_visible second spans
  rw [← alike.visible_eq] at normal'
  have cut (span : Span) (member : span ∈ Span.visible first spans) := normal.wellCut span member
  have cut' (span : Span) (member : span ∈ Span.visible first spans) := normal'.wellCut span member
  refine ⟨alike.length, fun span member => ⟨(cut span member).start, (cut span member).stop⟩,
    fun span member => ⟨(cut' span member).start, (cut' span member).stop⟩, fun span member => ?_⟩
  have ordered := Nat.le_of_lt (cut span member).nonempty
  have points : Text.locatedFrom span.start (first.slice span.start span.stop) =
      Text.locatedFrom span.start (second.slice span.start span.stop) := by
    refine eq_of_located (Text.pairwise_locatedFrom _ _) (Text.pairwise_locatedFrom _ _)
      fun point => ?_
    rw [Text.mem_locatedFrom_slice (cut span member).start (cut span member).stop ordered,
      Text.mem_locatedFrom_slice (cut' span member).start (cut' span member).stop ordered]
    refine and_congr_left fun inside => ?_
    obtain ⟨given, inSpans, after, before⟩ :=
      (Span.inScope_visible first spans point.1).mp ⟨span, member, inside⟩
    obtain ⟨start, stop⟩ := alike.cut given inSpans
    rw [Text.floorBoundary_eq_self start] at after
    rw [Text.ceilBoundary_eq_self stop] at before
    exact alike.located_iff inSpans ⟨after, before⟩
  rw [← Text.map_locatedFrom span.start (first.slice span.start span.stop), points,
    Text.map_locatedFrom]

theorem textOf_eq (alike : AlikeWithin spans first second) {part : List Span}
    (inside : part ⊆ spans) : textOf first part = textOf second part := by
  apply List.flatMap_congr
  intro span member
  exact alike.text span (inside member)

theorem visiblePoints_eq (alike : AlikeWithin spans first second) :
    visiblePoints first (some (Span.visible first spans)) =
      visiblePoints second (some (Span.visible second spans)) := by
  rw [visiblePoints_confined (Span.normal_visible first spans),
    visiblePoints_confined (Span.normal_visible second spans), ← alike.visible_eq]
  apply List.flatMap_congr
  intro span member
  rw [alike.visible.text span member]

theorem visibleBefore_eq (alike : AlikeWithin spans first second) (offset : Nat) :
    visibleBefore first (some (Span.visible first spans)) offset =
      visibleBefore second (some (Span.visible second spans)) offset := by
  rw [visibleBefore, alike.visiblePoints_eq, ← visibleBefore]

theorem visibleCursor_eq (alike : AlikeWithin spans first second) (offset : Nat) :
    visibleCursor first (some (Span.visible first spans)) offset =
      visibleCursor second (some (Span.visible second spans)) offset := by
  have parts (count : Nat) := alike.visible.textOf_eq
    (List.take_subset count (Span.visible first spans))
  rw [visibleCursor, visibleCursor, alike.visibleBefore_eq, ← alike.visible_eq]
  simp only [visibleText, spanPlaces, parts, alike.visible.textOf_eq (List.Subset.refl _)]

-- Where a reader stands is told by how many of the visible code points are before it.
theorem position_eq (alike : AlikeWithin spans first second) {reader reader' : SourceReader}
    (sound : reader.Sound) (sound' : reader'.Sound) (source : reader.source = first)
    (source' : reader'.source = second) (scope : reader.scope = some (Span.visible first spans))
    (scope' : reader'.scope = some (Span.visible second spans))
    (same : reader.visibleCursor = reader'.visibleCursor) : reader.position = reader'.position := by
  have peeks : reader.peek = reader'.peek :=
    (SourceReader.peek_visibleCursor sound).symm.trans
      ((congrArg Cursor.peek same).trans (SourceReader.peek_visibleCursor sound'))
  cases ahead : reader.peek with
  | none =>
    rw [SourceReader.position_of_peek_none sound ahead,
      SourceReader.position_of_peek_none sound' (peeks ▸ ahead), source, source', alike.length]
  | some c =>
    have point := SourceReader.mem_visiblePoints_of_peek sound ahead
    have point' := SourceReader.mem_visiblePoints_of_peek sound' (peeks ▸ ahead)
    have counts : visibleBefore reader.source reader.scope reader.position =
        visibleBefore reader'.source reader'.scope reader'.position :=
      congrArg IndexedCursor.place same
    rw [source, scope] at point counts
    rw [source', scope', ← alike.visiblePoints_eq] at point'
    rw [source', scope', ← alike.visibleBefore_eq] at counts
    exact eq_of_visibleBefore_eq point point' counts

theorem answers_eq (alike : AlikeWithin spans first second) (earlier earlier' : List ReaderCall)
    (offset : Nat) (calls : List HostCall) (accepted : TokenSet) :
    let reader := SourceReader.placedRun first (some spans) earlier offset calls
    let reader' := SourceReader.placedRun second (some spans) earlier' offset calls
    reader.position = reader'.position ∧
      (reader.evaluate accepted).1 = (reader'.evaluate accepted).1 := by
  intro reader reader'
  obtain ⟨sound, source, scope, cursor⟩ :=
    SourceReader.sound_placedRun first (some spans) earlier offset calls
  obtain ⟨sound', source', scope', cursor'⟩ :=
    SourceReader.sound_placedRun second (some spans) earlier' offset calls
  have same : reader.visibleCursor = reader'.visibleCursor := by
    rw [cursor, cursor', Option.map_some, Option.map_some, alike.visibleCursor_eq]
  refine ⟨alike.position_eq sound sound' source source' scope scope' same, ?_⟩
  rw [(SourceReader.evaluate_visibleCursor sound accepted).1, same,
    (SourceReader.evaluate_visibleCursor sound' accepted).1]

end AlikeWithin

structure TokenMark where
  stop : Nat
  isComment : Bool
  canEndStatement : Bool
  deriving DecidableEq, Repr

def Lexeme.mark (lexeme : Lexeme) : TokenMark where
  stop := lexeme.stop
  isComment := lexeme.isComment
  canEndStatement := lexeme.canEndStatement

def Insertion.summary (insertion : Insertion) : Nat × Reason :=
  (insertion.offset, insertion.reason)

namespace Survey

variable (source : Text) (mode : SiteMode) (scope : Option (List Span))

def isSeen (lexeme : Lexeme) : Bool :=
  !lexeme.isTrivia && decide (EndInScope (scope.map (Span.visible source)) lexeme.stop)

def seenMarks : List TokenMark :=
  ((Lexeme.ofText source).filter (isSeen source scope)).map Lexeme.mark

theorem map_mark_sites :
    (Report.sites source mode scope).map Lexeme.mark =
      (seenMarks source scope).filter fun mark =>
        decide (mode = .tokenEnd) || restOfLineIsBlank source mark.stop := by
  rw [Report.sites, seenMarks, List.filter_map, List.filter_filter]
  apply congrArg
  apply List.filter_congr
  intro lexeme _
  simp only [isSite, isSeen, Function.comp, Lexeme.mark]
  ac_rfl

theorem canEndAfter_eq_marks (offset : Nat) :
    canEndAfter source scope ((Lexeme.ofText source).filter (·.stop ≤ offset)) =
      let before := (seenMarks source scope).filter fun mark =>
        !mark.isComment && decide (mark.stop ≤ offset)
      before.getLast?.any TokenMark.canEndStatement := by
  have same : (Lexeme.ofText source).filter (fun lexeme =>
        isSignificant source scope lexeme && decide (lexeme.stop ≤ offset)) =
      (Lexeme.ofText source).filter fun lexeme =>
        (!lexeme.mark.isComment && decide (lexeme.mark.stop ≤ offset)) &&
          isSeen source scope lexeme := by
    apply List.filter_congr
    intro lexeme _
    simp only [isSignificant, isSeen, Lexeme.mark]
    ac_rfl
  simp only [canEndAfter, seenMarks, List.filter_map, List.filter_filter, same, List.getLast?_map,
    Option.any_map]
  rfl

-- Where no piece goes across a bound, each span is cut into tokens by itself.
theorem mem_seen_iff {source : Text} {spans : List Span} (normal : Span.Normal source spans)
    (uncrossed : ∀ span ∈ spans, Piece.CutAt source span.start ∧ Piece.CutAt source span.stop)
    {lexeme : Lexeme} :
    lexeme ∈ Lexeme.ofText source ∧ EndInScope (some spans) lexeme.stop ↔
      ∃ span ∈ spans, lexeme ∈ Piece.lexemesFrom span.start
        (Piece.ofText (source.slice span.start span.stop)) := by
  have inSpan (span : Span) (member : span ∈ spans) :
      (lexeme ∈ Lexeme.ofText source ∧ span.start < lexeme.stop ∧ lexeme.stop ≤ span.stop) ↔
        lexeme ∈ Piece.lexemesFrom span.start
          (Piece.ofText (source.slice span.start span.stop)) := by
    have wellCut := normal.wellCut span member
    obtain ⟨cut, cut'⟩ := uncrossed span member
    obtain ⟨front, back, whole, begins, ends⟩ :=
      Text.exists_slice wellCut.start wellCut.stop (Nat.le_of_lt wellCut.nonempty)
    generalize source.slice span.start span.stop = middle at whole ends ⊢
    subst whole
    rw [← ends, ← begins] at cut'
    rw [← begins] at cut
    rw [← ends, ← begins]
    exact Lexeme.mem_ofText_between cut cut'
  constructor
  · rintro ⟨inSource, span, member, inside⟩
    exact ⟨span, member, (inSpan span member).mp ⟨inSource, inside⟩⟩
  · rintro ⟨span, member, here⟩
    obtain ⟨inSource, inside⟩ := (inSpan span member).mpr here
    exact ⟨inSource, span, member, inside⟩

variable {spans : List Span} {first second : Text}

theorem seenMarks_eq_of_uncrossed (alike : AlikeWithin spans first second)
    (uncrossed : ∀ source ∈ [first, second], ∀ span ∈ Span.visible source spans,
      Piece.CutAt source span.start ∧ Piece.CutAt source span.stop) :
    seenMarks first (some spans) = seenMarks second (some spans) := by
  have normal' := Span.normal_visible second spans
  have uncrossed' := uncrossed second (by simp)
  rw [← alike.visible_eq] at normal' uncrossed'
  have shown (source : Text) : ((Lexeme.ofText source).filter (isSeen source (some spans))).Pairwise
      fun first later => first.stop < later.stop := (Lexeme.pairwise_stop_lt source).filter _
  apply congrArg (List.map Lexeme.mark)
  refine @List.Pairwise.eq_of_mem_iff _ (fun first later : Lexeme => first.stop < later.stop)
    inferInstance ⟨fun lexeme => Nat.lt_irrefl lexeme.stop⟩ _ _ (shown first)
    (shown second) fun lexeme => ?_
  have here := @mem_seen_iff first _ (Span.normal_visible first spans) (uncrossed first (by simp))
    lexeme
  have there := @mem_seen_iff second _ normal' uncrossed' lexeme
  have texts : (∃ span ∈ Span.visible first spans, lexeme ∈ Piece.lexemesFrom span.start
        (Piece.ofText (first.slice span.start span.stop))) ↔
      ∃ span ∈ Span.visible first spans, lexeme ∈ Piece.lexemesFrom span.start
        (Piece.ofText (second.slice span.start span.stop)) := by
    refine exists_congr fun span => and_congr_right fun member => ?_
    rw [alike.visible.text span member]
  simp only [List.mem_filter, isSeen, Bool.and_eq_true, decide_eq_true_eq, Option.map_some,
    ← alike.visible_eq, and_left_comm, here, there, texts]

theorem freshInsertion_summary_eq (alike : AlikeWithin spans first second)
    (marks : seenMarks first (some spans) = seenMarks second (some spans)) (offset : Nat) :
    (freshInsertion first (some spans) offset).map Insertion.summary =
      (freshInsertion second (some spans) offset).map Insertion.summary := by
  have canEnd := canEndAfter_eq_marks first (some spans) offset
  rw [marks, ← canEndAfter_eq_marks] at canEnd
  obtain ⟨position, verdict⟩ :=
    alike.answers_eq [] [] offset [] (.singleton .automaticSemicolon)
  have position : ((SourceReader.ofScope first (some spans)).seek offset).position =
    ((SourceReader.ofScope second (some spans)).seek offset).position := position
  have verdict : (((SourceReader.ofScope first (some spans)).seek offset).evaluate
      (.singleton .automaticSemicolon)).1 =
    (((SourceReader.ofScope second (some spans)).seek offset).evaluate
      (.singleton .automaticSemicolon)).1 := verdict
  simp only [freshInsertion, canEnd, verdict, position, apply_ite (Option.map Insertion.summary)]
  rfl

end Survey

namespace Report

variable {spans : List Span} {first second : Text}

theorem ofSource_congr_marks (mode : SiteMode) (alike : AlikeWithin spans first second)
    (marks : Survey.seenMarks first (some spans) = Survey.seenMarks second (some spans))
    (blank : mode = .lineEnd → ∀ mark ∈ Survey.seenMarks first (some spans),
      Survey.restOfLineIsBlank first mark.stop = Survey.restOfLineIsBlank second mark.stop) :
    (ofSource first mode (some spans)).sitesChecked =
        (ofSource second mode (some spans)).sitesChecked ∧
      (ofSource first mode (some spans)).insertions.map Insertion.summary =
        (ofSource second mode (some spans)).insertions.map Insertion.summary := by
  have sites : (sites first mode (some spans)).map Lexeme.mark =
      (sites second mode (some spans)).map Lexeme.mark := by
    rw [Survey.map_mark_sites, Survey.map_mark_sites, ← marks]
    apply List.filter_congr
    intro mark member
    cases mode with
    | tokenEnd => rfl
    | lineEnd => rw [blank rfl mark member]
  have insertions (source : Text) :
      (ofSource source mode (some spans)).insertions.map Insertion.summary =
        ((Report.sites source mode (some spans)).map Lexeme.mark).filterMap fun mark =>
          (Survey.freshInsertion source (some spans) mark.stop).map Insertion.summary := by
    rw [insertions_ofSource, List.map_filterMap, List.filterMap_map]
    rfl
  constructor
  · rw [sitesChecked_ofSource, sitesChecked_ofSource, ← List.length_map, sites, List.length_map]
  · rw [insertions, insertions, sites]
    simp only [Survey.freshInsertion_summary_eq alike marks]

/-- Nothing hidden has an effect on where a reader stands or what it answers. A report depends on
what is hidden in no way but through the ends, the comments and the statement ends among the tokens
that are seen, and at line ends through the blank rests of lines. The tokens that are seen do not
depend on it where no piece goes across a bound of the spans. -/
theorem ofSource_of_alike (first second : Text) (mode : SiteMode) (spans : List Span)
    (alike : AlikeWithin spans first second) :
    (∀ earlier earlier' offset calls accepted,
        let reader := SourceReader.placedRun first (some spans) earlier offset calls
        let reader' := SourceReader.placedRun second (some spans) earlier' offset calls
        reader.position = reader'.position ∧
          (reader.evaluate accepted).1 = (reader'.evaluate accepted).1) ∧
      (Survey.seenMarks first (some spans) = Survey.seenMarks second (some spans) →
        (mode = .lineEnd → ∀ mark ∈ Survey.seenMarks first (some spans),
          Survey.restOfLineIsBlank first mark.stop = Survey.restOfLineIsBlank second mark.stop) →
        (ofSource first mode (some spans)).sitesChecked =
            (ofSource second mode (some spans)).sitesChecked ∧
          (ofSource first mode (some spans)).insertions.map Insertion.summary =
            (ofSource second mode (some spans)).insertions.map Insertion.summary) ∧
      ((∀ source ∈ [first, second], ∀ span ∈ Span.visible source spans,
          Piece.CutAt source span.start ∧ Piece.CutAt source span.stop) →
        Survey.seenMarks first (some spans) = Survey.seenMarks second (some spans)) :=
  ⟨alike.answers_eq, ofSource_congr_marks mode alike, Survey.seenMarks_eq_of_uncrossed alike⟩

theorem hidden_text_between_statements :
    let spans : List Span := [⟨0, 2⟩, ⟨5, 7⟩]
    let first : Text := ['a', ' ', '"', ';', '"', ' ', 'b']
    let second : Text := ['a', ' ', '\x7b', '\n', '\x7d', ' ', 'b']
    AlikeWithin spans first second ∧
      (ofSource first .lineEnd (some spans)).insertions.map Insertion.summary =
        (ofSource second .lineEnd (some spans)).insertions.map Insertion.summary := by
  intro spans first second
  have alike : AlikeWithin spans first second := by decide
  obtain ⟨_, report, seen⟩ := ofSource_of_alike first second .lineEnd spans alike
  have uncrossed : ∀ source ∈ [first, second], ∀ span ∈ Span.visible source spans,
      Piece.CutAt source span.start ∧ Piece.CutAt source span.stop := by decide +kernel
  have blank : ∀ mark ∈ Survey.seenMarks first (some spans),
      Survey.restOfLineIsBlank first mark.stop = Survey.restOfLineIsBlank second mark.stop := by
    decide +kernel
  exact ⟨alike, (report (seen uncrossed) fun _ => blank).2⟩

-- A hidden letter joins two words that are seen, and a hidden one keeps a line from being blank.
theorem hidden_letter_changes_sites :
    let spans : List Span := [⟨0, 1⟩, ⟨2, 3⟩]
    AlikeWithin spans ['a', ' ', 'b'] ['a', 'x', 'b'] ∧
      (ofSource ['a', ' ', 'b'] .tokenEnd (some spans)).sitesChecked = 2 ∧
      (ofSource ['a', 'x', 'b'] .tokenEnd (some spans)).sitesChecked = 1 ∧
      AlikeWithin [⟨0, 1⟩] ['a', ' ', 'b'] ['a', ' ', ' '] ∧
      (ofSource ['a', ' ', 'b'] .lineEnd (some [⟨0, 1⟩])).sitesChecked = 0 ∧
      (ofSource ['a', ' ', ' '] .lineEnd (some [⟨0, 1⟩])).sitesChecked = 1 := by
  decide +kernel

end Report

end Terminator
