import Terminator.Proofs.SurveySites

set_option autoImplicit false

namespace Terminator

theorem Span.Normal.exists_last_of_reached {source : Text} {spans : List Span} {span : Span}
    {offset : Nat} (normal : Normal source spans) (early : ∀ span ∈ spans, span.stop ≤ offset)
    (member : span ∈ spans) (reaches : offset ≤ span.stop) :
    ∃ last ∈ spans, spans.getLast? = some last ∧ last.stop = offset := by
  obtain ⟨before, last, rfl⟩ :=
    (List.eq_nil_or_concat' spans).resolve_left (List.ne_nil_of_mem member)
  have stop := early last (by simp)
  refine ⟨last, by simp, by simp, ?_⟩
  rcases List.mem_append.mp member with inBefore | here
  · have apart := (List.pairwise_append.mp normal.apart).2.2 span inBefore last (by simp)
    have nonempty := (normal.wellCut last (by simp)).nonempty
    omega
  · obtain rfl := List.mem_singleton.mp here
    omega

namespace SourceReader

variable {reader : SourceReader} {spans : List Span}

-- A reader does not rest where a span ends. It moves on to the next span, or stands at the end of
-- the source if there is none.
theorem seek_inside_or_ended (confined : reader.scope = some spans)
    (normal : Span.Normal reader.source spans) (offset : Nat) :
    (∃ span ∈ spans, span.start ≤ (reader.seek offset).position ∧
        (reader.seek offset).position < span.stop) ∨
      (∀ span ∈ spans, span.stop ≤ reader.source.floorBoundary offset) ∧
        (reader.seek offset).position = reader.source.byteLength ∧
        (reader.seek offset).peek = none := by
  rcases placeAt_cases confined (reader.source.floorBoundary offset) with
    ⟨before, span, after, rfl, early, reaches, placed⟩ | ⟨early, placed⟩
  · left
    have nonempty := (normal.wellCut span (by simp)).nonempty
    rw [seek, placed]
    exact ⟨span, by simp, Nat.le_max_right _ _, Nat.max_lt.mpr ⟨reaches, nonempty⟩⟩
  · right
    have ended := (Text.charAt_eq_none_iff (Text.isBoundary_byteLength reader.source)).mpr rfl
    rw [seek, placed]
    exact ⟨early, rfl, by simp [peek, span?, SourceReader.spans, confined, ended]⟩

theorem reason_of_peek_none (nothing : reader.peek = none) :
    (reader.evaluate (.singleton .automaticSemicolon)).1.reason = .endOfInput := by
  have wanted : (TokenSet.singleton .automaticSemicolon).contains .automaticSemicolon = true := rfl
  have shows : Cursor.Shows [] (Cursor.mark reader) := nothing
  rw [evaluate, evaluate_of_shows wanted _ shows]
  rfl

end SourceReader

namespace Report

/-- Each insertion lies in a span, but for the one behind a token that the last span ends with. That
one goes to the end of the source, across the text that is hidden there. -/
theorem insertion_in_span_or_behind_last (source : Text) (mode : SiteMode) (spans : List Span)
    (insertion : Insertion)
    (reported : insertion ∈ (ofSource source mode (some spans)).insertions) :
    (∃ span ∈ Span.visible source spans,
        span.start ≤ insertion.offset ∧ insertion.offset ≤ span.stop) ∨
      ∃ last, (Span.visible source spans).getLast? = some last ∧ last.stop < source.byteLength ∧
        (∃ lexeme ∈ sites source mode (some spans), lexeme.stop = last.stop) ∧
        insertion.offset = source.byteLength ∧ insertion.reason = .endOfInput := by
  rw [insertions_ofSource, List.mem_filterMap] at reported
  obtain ⟨lexeme, site, fresh⟩ := reported
  obtain ⟨member, chosen⟩ := List.mem_filter.mp site
  obtain ⟨given, scope⟩ := SourceReader.ofScope_source source (some spans)
  have sound := SourceReader.sound_ofScope source (some spans)
  have normal := SourceReader.normalScope_of_sound sound _ scope
  have offset := Survey.offset_of_freshInsertion fresh
  rcases SourceReader.seek_inside_or_ended scope normal lexeme.stop with
    ⟨span, inVisible, after, before⟩ | ⟨early, position, nothing⟩
  · exact .inl ⟨span, inVisible, by omega, by omega⟩
  · rw [given] at early position normal
    rw [Text.floorBoundary_eq_self (Lexeme.isBoundary_stop member)] at early
    obtain ⟨span, inVisible, _, reaches⟩ := Survey.endInScope_of_isSite chosen
    obtain ⟨last, inVisible, ending, stop⟩ := normal.exists_last_of_reached early inVisible reaches
    have wellCut := normal.wellCut last inVisible
    have nonempty := wellCut.nonempty
    have inside := Text.le_byteLength_of_isBoundary wellCut.stop
    by_cases hidden : last.stop < source.byteLength
    next =>
      have reason := (Survey.verdict_of_freshInsertion fresh).2
      rw [SourceReader.reason_of_peek_none nothing] at reason
      exact .inr ⟨last, ending, hidden, ⟨lexeme, site, stop.symm⟩, by omega, reason⟩
    next => exact .inl ⟨last, inVisible, by omega, by omega⟩

theorem insertion_moves_to_next_span :
    let source := ['a', ' ', 'b']
    let spans : List Span := [⟨2, 3⟩, ⟨0, 1⟩]
    let insertion : Insertion := ⟨2, ⟨1, 3⟩, .rangeBoundary⟩
    insertion ∈ (ofSource source .tokenEnd (some spans)).insertions ∧
      ∃ span ∈ Span.visible source spans,
        span.start ≤ insertion.offset ∧ insertion.offset ≤ span.stop := by
  intro source spans insertion
  have reported : insertion ∈ (ofSource source .tokenEnd (some spans)).insertions := by
    decide +kernel
  refine ⟨reported, ?_⟩
  rcases insertion_in_span_or_behind_last source .tokenEnd spans insertion reported with
    inSpan | ⟨_, _, _, _, _, reason⟩
  · exact inSpan
  · cases reason

-- The last span ends behind the first letter, and all text from there on is hidden.
theorem insertion_behind_hidden_text :
    let source := ['a', ' ', 'b']
    let spans : List Span := [⟨0, 1⟩]
    let report := ofSource source .tokenEnd (some spans)
    report.insertions = [⟨3, ⟨1, 4⟩, .endOfInput⟩] ∧
      ¬ ∀ insertion ∈ report.insertions, ∃ span ∈ Span.visible source spans,
        span.start ≤ insertion.offset ∧ insertion.offset ≤ span.stop := by
  decide +kernel

end Report

end Terminator
