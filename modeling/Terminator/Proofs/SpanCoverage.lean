import Terminator.Proofs.SurveySites

set_option autoImplicit false

namespace Terminator

theorem inScope_cons {span : Span} {spans : List Span} {offset : Nat} :
    InScope (some (span :: spans)) offset ↔
      (span.start ≤ offset ∧ offset < span.stop) ∨ InScope (some spans) offset := by
  simp [InScope]

namespace Span

def Touched (spans : List Span) (offset : Nat) (c : Char) : Prop :=
  ∃ span ∈ spans, ∃ byte, offset ≤ byte ∧ byte < offset + c.utf8Size ∧
    span.start ≤ byte ∧ byte < span.stop

def Splits (offset : Nat) (c : Char) (span : Span) : Prop :=
  span.stop ≤ span.start ∧ offset < span.stop ∧ span.start < offset + c.utf8Size

instance (offset : Nat) (c : Char) : DecidablePred (Splits offset c) :=
  fun span => inferInstanceAs
    (Decidable (span.stop ≤ span.start ∧ offset < span.stop ∧ span.start < offset + c.utf8Size))

-- The induction is on the spans to come, and the open span may only grow to its right.
theorem inScope_joinInto {last : Span} {rest : List Span}
    (sorted : (last :: rest).Pairwise StartsBefore) (offset : Nat) :
    InScope (some (joinInto last rest)) offset ↔ InScope (some (last :: rest)) offset := by
  induction rest generalizing last with
  | nil => exact Iff.rfl
  | cons next rest ih =>
    obtain ⟨first, tail⟩ := List.pairwise_cons.mp sorted
    have ordered : last.start ≤ next.start := first next (by simp)
    by_cases touches : next.start ≤ last.stop
    · have absorbed := @ih { last with stop := max last.stop next.stop }
        (List.pairwise_cons.mpr ⟨fun span member => first span (by simp [member]), tail.of_cons⟩)
      rw [joinInto, if_pos touches, absorbed]
      simp only [inScope_cons, ← or_assoc]
      apply or_congr_left
      omega
    · rw [joinInto, if_neg touches, inScope_cons, ih tail, @inScope_cons last]

theorem inScope_join {spans : List Span} (sorted : spans.Pairwise StartsBefore) (offset : Nat) :
    InScope (some (join spans)) offset ↔ InScope (some spans) offset := by
  cases spans with
  | nil => exact Iff.rfl
  | cons first rest => exact inScope_joinInto sorted offset

theorem inScope_visible (source : Text) (spans : List Span) (offset : Nat) :
    InScope (some (visible source spans)) offset ↔
      ∃ span ∈ spans, source.floorBoundary span.start ≤ offset ∧
        offset < source.ceilBoundary span.stop := by
  rw [visible, inScope_join (pairwise_sortByStart _)]
  constructor
  · rintro ⟨_, shown, inside⟩
    obtain ⟨widened, _⟩ := List.mem_filter.mp (mem_sortByStart.mp shown)
    obtain ⟨span, member, rfl⟩ := List.mem_map.mp widened
    exact ⟨span, member, inside⟩
  · rintro ⟨span, member, after, before⟩
    refine ⟨span.widen source, mem_sortByStart.mpr (List.mem_filter.mpr ⟨?_, ?_⟩), after, before⟩
    · exact List.mem_map_of_mem member
    · exact decide_eq_true (Nat.lt_of_le_of_lt after before)

theorem inScope_iff_within {source : Text} {spans : List Span} (normal : Normal source spans)
    {offset : Nat} {c : Char} (member : (offset, c) ∈ source.located) :
    InScope (some spans) offset ↔
      ∃ span ∈ spans, span.start ≤ offset ∧ offset + c.utf8Size ≤ span.stop := by
  obtain ⟨cut, here⟩ := Text.mem_located_iff.mp member
  have wide := c.utf8Size_pos
  constructor
  · rintro ⟨span, inSpans, after, before⟩
    exact ⟨span, inSpans, after,
      Text.add_le_of_isBoundary cut here (normal.wellCut span inSpans).stop before⟩
  · rintro ⟨span, inSpans, after, before⟩
    exact ⟨span, inSpans, after, by omega⟩

-- The bounds of a span are widened before it is looked at whether there is anything in it.
theorem inScope_visible_iff {source : Text} {spans : List Span} {offset : Nat} {c : Char}
    (member : (offset, c) ∈ source.located) :
    InScope (some (visible source spans)) offset ↔
      Touched spans offset c ∨ ∃ span ∈ spans, Splits offset c span := by
  obtain ⟨cut, here⟩ := Text.mem_located_iff.mp member
  have wide := c.utf8Size_pos
  simp only [inScope_visible, Text.floorBoundary_le_iff cut here, Text.lt_ceilBoundary_iff cut here]
  constructor
  · rintro ⟨span, inSpans, after, before⟩
    by_cases empty : span.stop ≤ span.start
    · exact .inr ⟨span, inSpans, empty, before, after⟩
    · exact .inl ⟨span, inSpans, max offset span.start, by omega, by omega, by omega, by omega⟩
  · rintro (⟨span, inSpans, byte, first, last, after, before⟩ | ⟨span, inSpans, _, before, after⟩)
    · exact ⟨span, inSpans, by omega, by omega⟩
    · exact ⟨span, inSpans, after, before⟩

theorem visible_eq_nil {source : Text} {spans : List Span}
    (empty : ∀ span ∈ spans, span.stop ≤ span.start)
    (whole : ∀ span ∈ spans, ∀ point ∈ source.located, ¬ Splits point.1 point.2 span) :
    visible source spans = [] := by
  have normal := normal_visible source spans
  apply List.eq_nil_iff_forall_not_mem.mpr
  intro span member
  obtain ⟨c, shown⟩ := exists_visible_start normal member
  obtain ⟨cut, here, inside⟩ := mem_visiblePoints.mp shown
  have located := Text.mem_located_iff.mpr ⟨cut, here⟩
  rcases (inScope_visible_iff located).mp inside with touched | ⟨given, inSpans, splits⟩
  · obtain ⟨given, inSpans, byte, _, _, after, before⟩ := touched
    have nothing := empty given inSpans
    omega
  · exact whole given inSpans _ located splits

end Span

namespace SourceReader

theorem peek_eq_none_of_no_spans {reader : SourceReader} (sound : reader.Sound)
    (blind : reader.scope = some []) : reader.peek = none := by
  cases ahead : reader.peek with
  | none => rfl
  | some c =>
    have seen := inScope_of_peek sound ahead
    rw [blind] at seen
    obtain ⟨span, member, _⟩ := seen
    cases member

end SourceReader

namespace Report

theorem sites_eq_nil_of_no_spans {source : Text} {spans : List Span}
    (blind : Span.visible source spans = []) (mode : SiteMode) :
    sites source mode (some spans) = [] := by
  apply List.filter_eq_nil_iff.mpr
  intro lexeme _ site
  have seen := Survey.endInScope_of_isSite site
  rw [Option.map_some, blind] at seen
  obtain ⟨span, member, _⟩ := seen
  cases member

end Report

namespace Span

/-- A code point is shown if one of its bytes was asked for, or if a span without bytes has its
bounds inside of it. Only for such spans is more shown than was asked for, and without them spans
without bytes show nothing at all. -/
theorem visible_eq_touched_or_split (source : Text) (spans : List Span) :
    (∀ offset c, (offset, c) ∈ source.located →
      ((∃ span ∈ visible source spans, span.start ≤ offset ∧ offset + c.utf8Size ≤ span.stop) ↔
        Touched spans offset c ∨ ∃ span ∈ spans, Splits offset c span)) ∧
      ((∀ span ∈ spans, span.stop ≤ span.start) →
        (∀ span ∈ spans, ∀ point ∈ source.located, ¬ Splits point.1 point.2 span) →
          (∀ calls, ((SourceReader.ofScope source (some spans)).run calls).peek = none) ∧
            ∀ mode, (Report.ofSource source mode (some spans)).sitesChecked = 0) := by
  refine ⟨fun offset c member => ?_, fun empty whole => ?_⟩
  · rw [← inScope_iff_within (normal_visible source spans) member]
    exact inScope_visible_iff member
  · have blind := visible_eq_nil empty whole
    constructor
    · intro calls
      obtain ⟨sound, _, scope⟩ :=
        SourceReader.sound_run (SourceReader.sound_ofScope source (some spans)) calls
      apply SourceReader.peek_eq_none_of_no_spans sound
      rw [scope, (SourceReader.ofScope_source source (some spans)).2, Option.map_some, blind]
    · intro mode
      rw [Report.sitesChecked_ofSource, Report.sites_eq_nil_of_no_spans blind, List.length_nil]

theorem no_bytes_no_text :
    let source : Text := ['é', 'b']
    let spans : List Span := [⟨3, 2⟩, ⟨0, 0⟩]
    ¬ (∃ span ∈ visible source spans, span.start ≤ 2 ∧ 2 + Char.utf8Size 'b' ≤ span.stop) ∧
      ((SourceReader.ofScope source (some spans)).run [.seek 2, .host .keep, .seek 0]).peek = none ∧
      (Report.ofSource source .lineEnd (some spans)).sitesChecked = 0 := by
  intro source spans
  obtain ⟨exact, blind⟩ := visible_eq_touched_or_split source spans
  have empty : ∀ span ∈ spans, span.stop ≤ span.start := by decide
  have whole : ∀ span ∈ spans, ∀ point ∈ source.located, ¬ Splits point.1 point.2 span := by
    decide
  obtain ⟨nothing, none⟩ := blind empty whole
  refine ⟨?_, nothing _, none _⟩
  rw [exact 2 'b' (by decide)]
  rintro (⟨span, member, byte, _, _, after, before⟩ | ⟨span, member, splits⟩)
  · have given := empty span member
    omega
  · exact whole span member (2, 'b') (by decide) splits

/-- A span without bytes shows the code point that its bounds are inside of, and has a site. -/
theorem empty_span_shows_code_point :
    let source : Text := ['é']
    let spans : List Span := [⟨1, 1⟩]
    (∀ span ∈ spans, span.stop ≤ span.start) ∧ ¬ Touched spans 0 'é' ∧
      visible source spans = [⟨0, 2⟩] ∧
      (SourceReader.ofScope source (some spans)).peek = some 'é' ∧
      (Report.ofSource source .tokenEnd (some spans)).sitesChecked = 1 := by
  intro source spans
  have empty : ∀ span ∈ spans, span.stop ≤ span.start := by decide
  refine ⟨empty, ?_, by decide, by decide, by decide +kernel⟩
  rintro ⟨span, member, byte, _, _, after, before⟩
  have given := empty span member
  omega

end Span

end Terminator
