import Terminator.Proofs.SpanCoverage

set_option autoImplicit false

namespace Terminator

namespace Span

structure IsStretch (holds : Nat → Prop) (span : Span) : Prop where
  nonempty : span.start < span.stop
  inside : ∀ offset, span.start ≤ offset → offset < span.stop → holds offset
  before : ∀ offset, offset + 1 = span.start → ¬ holds offset
  behind : ¬ holds span.stop

structure Rounds (source : Text) (given span : Span) : Prop where
  start : IsGreatest {cut | source.IsBoundary cut ∧ cut ≤ min given.start source.byteLength}
    span.start
  stop : IsLeast {cut | source.IsBoundary cut ∧ min given.stop source.byteLength ≤ cut} span.stop

def Covered (source : Text) (spans : List Span) (offset : Nat) : Prop :=
  ∃ given ∈ spans, ∃ span, Rounds source given span ∧ span.start ≤ offset ∧ offset < span.stop

variable {source : Text} {spans spans' : List Span} {offset : Nat}

theorem Normal.disjoint (normal : Normal source spans) {span other : Span} (member : span ∈ spans)
    (member' : other ∈ spans) :
    span = other ∨ span.stop < other.start ∨ other.stop < span.start := by
  obtain ⟨index, found⟩ := List.mem_iff_getElem?.mp member
  obtain ⟨index', found'⟩ := List.mem_iff_getElem?.mp member'
  rcases Nat.lt_trichotomy index index' with less | rfl | less
  · exact .inr (.inl (normal.stop_lt_start found found' less))
  · exact .inl (Option.some.inj (found.symm.trans found'))
  · exact .inr (.inr (normal.stop_lt_start found' found less))

theorem Normal.isStretch (normal : Normal source spans) {span : Span} (member : span ∈ spans) :
    IsStretch (InScope (some spans)) span where
  nonempty := (normal.wellCut span member).nonempty
  inside _ after before := ⟨span, member, after, before⟩
  before := by
    rintro offset next ⟨other, member', after, before⟩
    have nonempty := (normal.wellCut span member).nonempty
    rcases normal.disjoint member member' with rfl | apart | apart <;> omega
  behind := by
    rintro ⟨other, member', after, before⟩
    have nonempty := (normal.wellCut span member).nonempty
    rcases normal.disjoint member member' with rfl | apart | apart <;> omega

theorem Normal.mem_iff (normal : Normal source spans) {span : Span} :
    span ∈ spans ↔ IsStretch (InScope (some spans)) span := by
  refine ⟨normal.isStretch, fun stretch => ?_⟩
  obtain ⟨other, member, after, before⟩ :=
    stretch.inside span.start (Nat.le_refl _) stretch.nonempty
  have whole := normal.isStretch member
  have start : other.start = span.start := by
    by_contra differs
    exact stretch.before (span.start - 1) (by omega) (whole.inside _ (by omega) (by omega))
  have stop : other.stop = span.stop := by
    rcases Nat.lt_trichotomy other.stop span.stop with less | same | more
    · exact absurd (stretch.inside other.stop (by omega) less) whole.behind
    · exact same
    · have nonempty := stretch.nonempty
      exact absurd (whole.inside span.stop (by omega) more) stretch.behind
  have same : other = span := by
    cases other
    cases span
    simp_all
  exact same ▸ member

theorem Normal.pairwise_start_lt (normal : Normal source spans) :
    spans.Pairwise fun first later => first.start < later.start := by
  refine normal.apart.imp_of_mem fun {first later} member _ less => ?_
  have nonempty := (normal.wellCut first member).nonempty
  omega

theorem Normal.eq_of_inScope (normal : Normal source spans) (normal' : Normal source spans')
    (same : ∀ offset, InScope (some spans) offset ↔ InScope (some spans') offset) :
    spans = spans' := by
  have shown : InScope (some spans) = InScope (some spans') := funext fun offset =>
    propext (same offset)
  refine @List.Pairwise.eq_of_mem_iff _ (fun first later : Span => first.start < later.start)
    inferInstance ⟨fun span => Nat.lt_irrefl span.start⟩ _ _ normal.pairwise_start_lt
    normal'.pairwise_start_lt fun span => ?_
  rw [normal.mem_iff, normal'.mem_iff, shown]

theorem rounds_iff {given span : Span} : Rounds source given span ↔ span = given.widen source := by
  have start := Text.isGreatest_floorBoundary source given.start
  have stop := Text.isLeast_ceilBoundary source given.stop
  constructor
  · rintro ⟨greatest, least⟩
    have first := greatest.unique start
    have last := least.unique stop
    cases span
    simp_all [widen]
  · rintro rfl
    exact ⟨start, stop⟩

theorem covered_iff : Covered source spans offset ↔
    ∃ given ∈ spans, source.floorBoundary given.start ≤ offset ∧
      offset < source.ceilBoundary given.stop := by
  simp [Covered, rounds_iff, widen]

theorem inScope_visible_iff_covered :
    InScope (some (visible source spans)) offset ↔ Covered source spans offset := by
  rw [inScope_visible, covered_iff]

theorem visible_eq_of_covered
    (same : ∀ offset, Covered source spans offset ↔ Covered source spans' offset) :
    visible source spans = visible source spans' := by
  apply (normal_visible source spans).eq_of_inScope (normal_visible source spans')
  intro offset
  rw [inScope_visible_iff_covered, inScope_visible_iff_covered, same]

theorem visible_of_normal (normal : Normal source spans) : visible source spans = spans := by
  apply (normal_visible source spans).eq_of_inScope normal
  intro offset
  rw [inScope_visible_iff_covered, covered_iff]
  refine exists_congr fun span => and_congr_right fun member => ?_
  have wellCut := normal.wellCut span member
  rw [Text.floorBoundary_eq_self wellCut.start, Text.ceilBoundary_eq_self wellCut.stop]

theorem covered_congr (same : ∀ span, span ∈ spans ↔ span ∈ spans') :
    Covered source spans offset ↔ Covered source spans' offset :=
  exists_congr fun span => and_congr_left' (same span)

theorem covered_cons_of_nested {inner outer : Span} (member : outer ∈ spans)
    (start : outer.start ≤ inner.start) (stop : inner.stop ≤ outer.stop) :
    Covered source (inner :: spans) offset ↔ Covered source spans offset := by
  have first := Text.floorBoundary_mono source start
  have last := Text.ceilBoundary_mono source stop
  simp only [covered_iff, List.exists_mem_cons_iff, or_iff_right_iff_imp]
  rintro ⟨after, before⟩
  exact ⟨outer, member, Nat.le_trans first after, Nat.lt_of_lt_of_le before last⟩

-- A cut inside of a code point makes both parts show it.
theorem covered_of_split {first middle last : Nat} (early : first ≤ middle) (late : middle ≤ last) :
    Covered source (⟨first, middle⟩ :: ⟨middle, last⟩ :: spans) offset ↔
      Covered source (⟨first, last⟩ :: spans) offset := by
  have start := Text.floorBoundary_mono source early
  have stop := Text.ceilBoundary_mono source late
  have meets := Text.floorBoundary_le_ceilBoundary source middle
  simp only [covered_iff, List.exists_mem_cons_iff, ← or_assoc]
  apply or_congr_left
  omega

end Span

namespace SourceReader

variable {source : Text} {spans spans' : List Span}

theorem spans_confined (source : Text) (spans : List Span) :
    (confined source spans).spans = Span.visible source spans := by
  have scope := (ofScope_source source (some spans)).2
  simp only [ofScope] at scope
  simp [SourceReader.spans, scope]

theorem confined_eq_of_visible (same : Span.visible source spans = Span.visible source spans') :
    confined source spans = confined source spans' := by
  rw [confined, confined, same]

/-- The spans of a reader are one list for all the ways to ask for the same text. -/
theorem spans_canonical (source : Text) (spans : List Span) :
    let reader := confined source spans
    (∀ span ∈ reader.spans, span.start < span.stop ∧ span.stop ≤ source.byteLength ∧
        source.IsBoundary span.start ∧ source.IsBoundary span.stop) ∧
      (reader.spans.Pairwise fun first later => first.stop < later.start) ∧
      (∀ offset, (∃ span ∈ reader.spans, span.start ≤ offset ∧ offset < span.stop) ↔
        Span.Covered source spans offset) ∧
      (∀ spans', (∀ offset, Span.Covered source spans' offset ↔ Span.Covered source spans offset) →
        confined source spans' = reader) ∧
      (∀ spans', (∀ span, span ∈ spans' ↔ span ∈ spans) → confined source spans' = reader) ∧
      (∀ inner, ∀ outer ∈ spans, outer.start ≤ inner.start → inner.stop ≤ outer.stop →
        confined source (inner :: spans) = reader) ∧
      (∀ first middle last, first ≤ middle → middle ≤ last →
        confined source (⟨first, middle⟩ :: ⟨middle, last⟩ :: spans) =
          confined source (⟨first, last⟩ :: spans)) ∧
      confined source reader.spans = reader := by
  intro reader
  have normal := Span.normal_visible source spans
  have shown : reader.spans = Span.visible source spans := spans_confined source spans
  have alike {given given' : List Span}
      (same : ∀ offset, Span.Covered source given offset ↔ Span.Covered source given' offset) :
      confined source given = confined source given' :=
    confined_eq_of_visible (Span.visible_eq_of_covered same)
  rw [shown]
  refine ⟨?_, normal.apart, fun _ => Span.inScope_visible_iff_covered, fun _ => alike, ?_, ?_, ?_,
    confined_eq_of_visible (Span.visible_of_normal normal)⟩
  · intro span member
    obtain ⟨nonempty, start, stop⟩ := normal.wellCut span member
    exact ⟨nonempty, Text.le_byteLength_of_isBoundary stop, start, stop⟩
  · intro spans' same
    exact alike fun _ => Span.covered_congr same
  · intro inner outer member start stop
    exact alike fun _ => Span.covered_cons_of_nested member start stop
  · intro first middle last early late
    exact alike fun _ => Span.covered_of_split early late

-- Out of order, one of them twice, one inside of another, one cut inside of a code point, and one
-- that goes past the end.
theorem spans_canonical_of_pieces :
    let source : Text := ['a', 'é', 'b', 'c', 'd']
    let tidy : List Span := [⟨0, 3⟩, ⟨4, 6⟩]
    let pieces : List Span := [⟨4, 9⟩, ⟨5, 5⟩, ⟨2, 3⟩, ⟨4, 9⟩, ⟨0, 2⟩]
    (∀ offset, Span.Covered source pieces offset ↔ Span.Covered source tidy offset) ∧
      confined source pieces = confined source tidy ∧
      confined source (⟨5, 5⟩ :: tidy) = confined source tidy ∧
      (confined source pieces).spans = tidy := by
  intro source tidy pieces
  obtain ⟨_, _, covered, canonical, _, nested, _, _⟩ := spans_canonical source tidy
  obtain ⟨_, _, covered', _⟩ := spans_canonical source pieces
  have shown : (confined source pieces).spans = (confined source tidy).spans := by decide
  have same (offset : Nat) :
      Span.Covered source pieces offset ↔ Span.Covered source tidy offset := by
    rw [← covered, ← covered', shown]
  exact ⟨same, canonical pieces same, nested ⟨5, 5⟩ ⟨4, 6⟩ (by decide) (by decide) (by decide),
    by decide⟩

end SourceReader

end Terminator
