import Mathlib.Data.List.Sort
import Terminator.Proofs.TextBoundaries
import Terminator.Span

set_option autoImplicit false

namespace Terminator.Span

structure WellCut (source : Text) (span : Span) : Prop where
  nonempty : span.start < span.stop
  start : source.IsBoundary span.start
  stop : source.IsBoundary span.stop

/-- Spans in the order of the source, with something hidden between any two of them. -/
structure Normal (source : Text) (spans : List Span) : Prop where
  wellCut : ∀ span ∈ spans, span.WellCut source
  apart : spans.Pairwise fun first later => first.stop < later.start

theorem Normal.stop_lt_start {source : Text} {spans : List Span} (normal : Normal source spans)
    {index index' : Nat} {span span' : Span} (found : spans[index]? = some span)
    (found' : spans[index']? = some span') (less : index < index') : span.stop < span'.start := by
  obtain ⟨inside, rfl⟩ := List.getElem?_eq_some_iff.mp found
  obtain ⟨inside', rfl⟩ := List.getElem?_eq_some_iff.mp found'
  exact List.pairwise_iff_getElem.mp normal.apart index index' inside inside' less

theorem Normal.index_unique {source : Text} {spans : List Span} (normal : Normal source spans)
    {index index' : Nat} {span span' : Span} {offset : Nat} (found : spans[index]? = some span)
    (found' : spans[index']? = some span') (inside : span.start ≤ offset ∧ offset < span.stop)
    (inside' : span'.start ≤ offset ∧ offset < span'.stop) : index = index' := by
  rcases Nat.lt_trichotomy index index' with less | same | less
  · have apart := normal.stop_lt_start found found' less
    omega
  · exact same
  · have apart := normal.stop_lt_start found' found less
    omega

theorem Normal.start_le_of_mem {source : Text} {front back : List Span} {first span : Span}
    (normal : Normal source (front ++ first :: back)) (member : span ∈ first :: back) :
    first.start ≤ span.start := by
  rcases List.mem_cons.mp member with rfl | later
  · exact Nat.le_refl _
  · have apart := (List.pairwise_append.mp normal.apart).2.1
    have beyond := List.rel_of_pairwise_cons apart later
    have nonempty := (normal.wellCut first (by simp)).nonempty
    omega

def StartsBefore (first later : Span) : Prop :=
  first.start ≤ later.start

instance : DecidableRel StartsBefore :=
  fun first later => inferInstanceAs (Decidable (first.start ≤ later.start))

instance : Std.Total StartsBefore :=
  ⟨fun first later => Nat.le_total first.start later.start⟩

instance : IsTrans Span StartsBefore :=
  ⟨fun _ _ _ => Nat.le_trans⟩

theorem insertByStart_eq (span : Span) (spans : List Span) :
    insertByStart span spans = spans.orderedInsert StartsBefore span := by
  induction spans with
  | nil => rfl
  | cons next rest ih =>
    by_cases before : span.start ≤ next.start <;> simp [insertByStart, ih, StartsBefore, before]

theorem sortByStart_eq (spans : List Span) :
    sortByStart spans = spans.insertionSort StartsBefore := by
  induction spans with
  | nil => rfl
  | cons span rest ih => rw [sortByStart, ih, insertByStart_eq, List.insertionSort_cons]

theorem mem_sortByStart {span : Span} {spans : List Span} :
    span ∈ sortByStart spans ↔ span ∈ spans := by
  rw [sortByStart_eq, List.mem_insertionSort]

theorem pairwise_sortByStart (spans : List Span) :
    (sortByStart spans).Pairwise StartsBefore := by
  rw [sortByStart_eq]
  exact List.pairwise_insertionSort StartsBefore spans

theorem wellCut_of_mem_joinInto {source : Text} {last : Span} {rest : List Span}
    (first : last.WellCut source) (later : ∀ span ∈ rest, span.WellCut source) :
    ∀ span ∈ joinInto last rest, span.WellCut source := by
  induction rest generalizing last with
  | nil => simpa [joinInto] using first
  | cons next rest ih =>
    obtain ⟨here, others⟩ := List.forall_mem_cons.mp later
    by_cases touches : next.start ≤ last.stop
    · rw [joinInto, if_pos touches]
      refine ih ⟨Nat.lt_of_lt_of_le first.nonempty (Nat.le_max_left _ _), first.start, ?_⟩ others
      rcases Nat.le_total last.stop next.stop with less | less
      · simpa [less] using here.stop
      · simpa [less] using first.stop
    · rw [joinInto, if_neg touches]
      exact List.forall_mem_cons.mpr ⟨first, ih here others⟩

-- What is joined never begins before the span that is still open.
theorem le_start_of_mem_joinInto {bound : Nat} {last : Span} {rest : List Span}
    (first : bound ≤ last.start) (later : ∀ span ∈ rest, bound ≤ span.start) :
    ∀ span ∈ joinInto last rest, bound ≤ span.start := by
  induction rest generalizing last with
  | nil => simpa [joinInto] using first
  | cons next rest ih =>
    obtain ⟨here, others⟩ := List.forall_mem_cons.mp later
    rw [joinInto]
    split
    next => exact ih first others
    next => exact List.forall_mem_cons.mpr ⟨first, ih here others⟩

theorem apart_joinInto {last : Span} {rest : List Span}
    (sorted : (last :: rest).Pairwise StartsBefore) :
    (joinInto last rest).Pairwise fun first later => first.stop < later.start := by
  induction rest generalizing last with
  | nil => exact List.pairwise_singleton _ last
  | cons next rest ih =>
    obtain ⟨first, tail⟩ := List.pairwise_cons.mp sorted
    obtain ⟨second, others⟩ := List.pairwise_cons.mp tail
    by_cases touches : next.start ≤ last.stop
    · rw [joinInto, if_pos touches]
      exact ih (List.pairwise_cons.mpr ⟨fun span member => first span (by simp [member]), others⟩)
    · rw [joinInto, if_neg touches]
      refine List.pairwise_cons.mpr ⟨fun span member => ?_, ih tail⟩
      have beyond := le_start_of_mem_joinInto (Nat.le_refl next.start) second span member
      omega

theorem wellCut_widen {source : Text} {span : Span}
    (nonempty : (span.widen source).start < (span.widen source).stop) :
    (span.widen source).WellCut source where
  nonempty := nonempty
  start := Text.isBoundary_floorBoundary source span.start
  stop := Text.isBoundary_ceilBoundary source span.stop

theorem normal_join {source : Text} {spans : List Span}
    (wellCut : ∀ span ∈ spans, span.WellCut source) (sorted : spans.Pairwise StartsBefore) :
    Normal source (join spans) := by
  cases spans with
  | nil => exact ⟨by simp [join], List.Pairwise.nil⟩
  | cons first rest =>
    obtain ⟨here, others⟩ := List.forall_mem_cons.mp wellCut
    exact ⟨wellCut_of_mem_joinInto here others, apart_joinInto sorted⟩

theorem normal_visible (source : Text) (spans : List Span) :
    Normal source (visible source spans) := by
  refine normal_join (fun span member => ?_) (pairwise_sortByStart _)
  obtain ⟨widened, nonempty⟩ := List.mem_filter.mp (mem_sortByStart.mp member)
  obtain ⟨given, _, rfl⟩ := List.mem_map.mp widened
  exact wellCut_widen (by simpa using nonempty)

end Terminator.Span
