import Terminator.Proofs.SpanNormalForm
import Terminator.SourceReader

set_option autoImplicit false

namespace Terminator.SourceReader

def Reading (reader : SourceReader) (spans : List Span) : Prop :=
  ∃ span, spans[reader.current]? = some span ∧
    span.start ≤ reader.position ∧ reader.position < span.stop

def Finished (reader : SourceReader) (spans : List Span) : Prop :=
  reader.current = spans.length ∧ reader.position = reader.source.byteLength

structure Sound (reader : SourceReader) : Prop where
  position : reader.source.IsBoundary reader.position
  tokenStart : reader.source.IsBoundary reader.tokenStart
  marked : ∀ offset ∈ reader.marked, reader.source.IsBoundary offset
  whole : reader.scope = none → reader.current = 0
  confined : ∀ spans, reader.scope = some spans →
    Span.Normal reader.source spans ∧ (reader.Reading spans ∨ reader.Finished spans)

theorem charAt_of_peek {reader : SourceReader} {c : Char} (ahead : reader.peek = some c) :
    reader.source.charAt reader.position = some c := by
  unfold peek at ahead
  split at ahead
  next =>
    split at ahead
    next => exact ahead
    next => cases ahead
  next => exact ahead

theorem span?_eq {reader : SourceReader} {spans : List Span} (confined : reader.scope = some spans) :
    reader.span? = spans[reader.current]? := by
  simp [span?, SourceReader.spans, confined]

theorem span?_whole {reader : SourceReader} (whole : reader.scope = none) :
    reader.span? = none := by
  simp [span?, SourceReader.spans, whole]

theorem reading_of_peek {reader : SourceReader} {spans : List Span} {c : Char}
    (sound : reader.Sound) (confined : reader.scope = some spans) (ahead : reader.peek = some c) :
    reader.Reading spans := by
  rcases (sound.confined spans confined).2 with reading | ⟨_, ended⟩
  · exact reading
  · have inside := lt_byteLength_of_peek ahead
    omega

theorem past_cases {reader : SourceReader} {c : Char} (sound : reader.Sound)
    (ahead : reader.peek = some c) :
    (reader.scope = none ∧ reader.past c = { reader with position := reader.position + c.utf8Size }) ∨
    (∃ spans span, reader.scope = some spans ∧ spans[reader.current]? = some span ∧
      span.start ≤ reader.position ∧ reader.position + c.utf8Size < span.stop ∧
      reader.past c = { reader with position := reader.position + c.utf8Size }) ∨
    (∃ spans span, reader.scope = some spans ∧ spans[reader.current]? = some span ∧
      span.start ≤ reader.position ∧ reader.position + c.utf8Size = span.stop ∧
      reader.past c =
        { reader with
          current := reader.current + 1
          position := startOf reader.source spans (reader.current + 1) }) := by
  cases confined : reader.scope with
  | none =>
    refine .inl ⟨rfl, ?_⟩
    simp [past, span?_whole confined, confined]
  | some spans =>
    obtain ⟨span, found, after, before⟩ := reading_of_peek sound confined ahead
    have normal := (sound.confined spans confined).1
    have member := List.mem_of_getElem? found
    have reaches := Text.add_le_of_isBoundary sound.position (charAt_of_peek ahead)
      (normal.wellCut span member).stop before
    by_cases within : reader.position + c.utf8Size < span.stop
    · refine .inr (.inl ⟨spans, span, rfl, found, after, within, ?_⟩)
      simp [past, span?_eq confined, found, within, confined]
    · refine .inr (.inr ⟨spans, span, rfl, found, after, by omega, ?_⟩)
      simp [past, span?_eq confined, found, within, SourceReader.spans, confined]

theorem stop_le_startOf {source : Text} {spans : List Span} (normal : Span.Normal source spans)
    {index : Nat} {span : Span} (found : spans[index]? = some span) :
    span.stop ≤ startOf source spans (index + 1) := by
  unfold startOf
  split
  next next found' =>
    exact Nat.le_of_lt (normal.stop_lt_start found found' (Nat.lt_succ_self index))
  next =>
    exact Text.le_byteLength_of_isBoundary
      (normal.wellCut span (List.mem_of_getElem? found)).stop

theorem startOf_le {source : Text} {spans : List Span} (normal : Span.Normal source spans)
    {index index' : Nat} {span : Span} (found : spans[index']? = some span) (less : index ≤ index') :
    startOf source spans index ≤ span.start := by
  unfold startOf
  cases here : spans[index]? with
  | none =>
    have outside := List.getElem?_eq_none_iff.mp here
    have inside := (List.getElem?_eq_some_iff.mp found).1
    omega
  | some first =>
    rcases Nat.eq_or_lt_of_le less with rfl | more
    · obtain rfl := Option.some.inj (here.symm.trans found)
      exact Nat.le_refl _
    · have apart := normal.stop_lt_start here found more
      have nonempty := (normal.wellCut first (List.mem_of_getElem? here)).nonempty
      exact Nat.le_of_lt (Nat.lt_trans nonempty apart)

theorem isBoundary_startOf {source : Text} {spans : List Span} (normal : Span.Normal source spans)
    (index : Nat) : source.IsBoundary (startOf source spans index) := by
  unfold startOf
  split
  next span found => exact (normal.wellCut span (List.mem_of_getElem? found)).start
  next => exact Text.isBoundary_byteLength source

theorem reading_or_finished_of_start {reader : SourceReader} {spans : List Span}
    (normal : Span.Normal reader.source spans) (inside : reader.current ≤ spans.length)
    (starts : reader.position = startOf reader.source spans reader.current) :
    reader.Reading spans ∨ reader.Finished spans := by
  cases found : spans[reader.current]? with
  | none =>
    have outside := List.getElem?_eq_none_iff.mp found
    exact .inr ⟨by omega, by simpa [startOf, found] using starts⟩
  | some span =>
    have here : reader.position = span.start := by simpa [startOf, found] using starts
    have nonempty := (normal.wellCut span (List.mem_of_getElem? found)).nonempty
    exact .inl ⟨span, found, by omega, by omega⟩

theorem sound_past {reader : SourceReader} {c : Char} (sound : reader.Sound)
    (ahead : reader.peek = some c) : (reader.past c).Sound := by
  have next := Text.isBoundary_add_of_charAt sound.position (charAt_of_peek ahead)
  rcases past_cases sound ahead with
    ⟨whole, moved⟩ | ⟨spans, span, confined, found, after, before, moved⟩ |
    ⟨spans, span, confined, found, after, ends, moved⟩
  · rw [moved]
    exact ⟨next, sound.tokenStart, sound.marked, sound.whole,
      fun spans confined => by simp [whole] at confined⟩
  · rw [moved]
    refine ⟨next, sound.tokenStart, sound.marked, sound.whole, fun spans' confined' => ?_⟩
    obtain rfl : spans = spans' := by simpa [confined] using confined'
    exact ⟨(sound.confined spans confined).1, .inl ⟨span, found, by simp only; omega, before⟩⟩
  · have normal := (sound.confined spans confined).1
    rw [moved]
    refine ⟨isBoundary_startOf normal _, sound.tokenStart, sound.marked, ?_, fun spans' confined' => ?_⟩
    · simp [confined]
    · obtain rfl : spans = spans' := by simpa [confined] using confined'
      have inside : reader.current < spans.length := (List.getElem?_eq_some_iff.mp found).1
      exact ⟨normal, reading_or_finished_of_start normal inside rfl⟩

theorem position_lt_past {reader : SourceReader} {c : Char} (sound : reader.Sound)
    (ahead : reader.peek = some c) : reader.position < (reader.past c).position := by
  have wide := c.utf8Size_pos
  rcases past_cases sound ahead with
    ⟨whole, moved⟩ | ⟨spans, span, confined, found, after, before, moved⟩ |
    ⟨spans, span, confined, found, after, ends, moved⟩
  · rw [moved]
    exact Nat.lt_add_of_pos_right wide
  · rw [moved]
    exact Nat.lt_add_of_pos_right wide
  · have jump := stop_le_startOf (sound.confined spans confined).1 found
    rw [moved]
    simp only
    omega

theorem sound_keep {reader : SourceReader} (sound : reader.Sound) : reader.keep.Sound := by
  cases ahead : reader.peek with
  | none => simpa [keep, ahead] using sound
  | some c => simpa [keep, ahead] using sound_past sound ahead

theorem sound_skip {reader : SourceReader} (sound : reader.Sound) : reader.skip.Sound := by
  cases ahead : reader.peek with
  | none => simpa [skip, ahead] using sound
  | some c =>
    have next := sound_past sound ahead
    simp only [skip, ahead]
    exact ⟨next.position, next.position, next.marked, next.whole, next.confined⟩

theorem sound_mark {reader : SourceReader} (sound : reader.Sound) : reader.mark.Sound where
  position := sound.position
  tokenStart := sound.tokenStart
  marked := by
    rintro offset ⟨⟩
    exact sound.position
  whole := sound.whole
  confined := sound.confined

theorem placeAt_cases {reader : SourceReader} {spans : List Span}
    (confined : reader.scope = some spans) (offset : Nat) :
    (∃ before span after, spans = before ++ span :: after ∧
      (∀ earlier ∈ before, earlier.stop ≤ offset) ∧ offset < span.stop ∧
      reader.placeAt offset =
        { reader with
          current := before.length
          position := max offset span.start
          tokenStart := max offset span.start
          marked := none }) ∨
    ((∀ span ∈ spans, span.stop ≤ offset) ∧
      reader.placeAt offset =
        { reader with
          current := spans.length
          position := reader.source.byteLength
          tokenStart := reader.source.byteLength
          marked := none }) := by
  let behind := fun span : Span => decide (offset < span.stop)
  have placed : reader.placeAt offset =
      { reader with
        current := spans.findIdx behind
        position := (spans[spans.findIdx behind]?).elim reader.source.byteLength
          fun span => max offset span.start
        tokenStart := (spans[spans.findIdx behind]?).elim reader.source.byteLength
          fun span => max offset span.start
        marked := none } := by
    simp only [placeAt, confined, behind]
    cases spans[spans.findIdx fun span => decide (offset < span.stop)]? <;> rfl
  have skipped : ∀ earlier ∈ spans.take (spans.findIdx behind), earlier.stop ≤ offset := by
    intro earlier member
    obtain ⟨index, inside, rfl⟩ := List.mem_take_iff_getElem.mp member
    have less : index < spans.findIdx behind := by omega
    simpa [behind] using List.not_of_lt_findIdx less
  cases found : spans[spans.findIdx behind]? with
  | none =>
    have outside := List.getElem?_eq_none_iff.mp found
    have all : spans.findIdx behind = spans.length :=
      Nat.le_antisymm List.findIdx_le_length outside
    rw [all, List.take_length] at skipped
    refine .inr ⟨skipped, ?_⟩
    rw [placed, found, all]
    rfl
  | some span =>
    obtain ⟨inside, here⟩ := List.getElem?_eq_some_iff.mp found
    have reaches : behind span = true := List.findIdx_of_getElem?_eq_some found
    have split : spans = spans.take (spans.findIdx behind) ++
        span :: spans.drop (spans.findIdx behind + 1) := by
      rw [← here, ← List.drop_eq_getElem_cons inside, List.take_append_drop]
    refine .inl ⟨_, span, _, split, skipped, by simpa [behind] using reaches, ?_⟩
    rw [placed, found, List.length_take, Nat.min_eq_left (Nat.le_of_lt inside)]
    rfl

theorem sound_placeAt {reader : SourceReader} {offset : Nat}
    (normal : ∀ spans, reader.scope = some spans → Span.Normal reader.source spans)
    (boundary : reader.source.IsBoundary offset) : (reader.placeAt offset).Sound := by
  cases confined : reader.scope with
  | none =>
    simp only [placeAt, confined]
    exact ⟨boundary, boundary, by simp, fun _ => rfl, by simp⟩
  | some spans =>
    have normal := normal spans confined
    rcases placeAt_cases confined offset with
      ⟨before, span, after, rfl, _, reaches, placed⟩ | ⟨_, placed⟩
    · have wellCut := normal.wellCut span (by simp)
      have cut : reader.source.IsBoundary (max offset span.start) := by
        rcases Nat.le_total offset span.start with less | less
        · simpa [less] using wellCut.start
        · simpa [less] using boundary
      rw [placed]
      refine ⟨cut, cut, by simp, by simp [confined], fun spans' confined' => ?_⟩
      obtain rfl : _ = spans' := by simpa [confined] using confined'
      have nonempty := wellCut.nonempty
      refine ⟨normal, .inl ⟨span, by simp, Nat.le_max_right _ _, ?_⟩⟩
      simp only
      omega
    · have ended := Text.isBoundary_byteLength reader.source
      rw [placed]
      refine ⟨ended, ended, by simp, by simp [confined], fun spans' confined' => ?_⟩
      obtain rfl : spans = spans' := by simpa [confined] using confined'
      exact ⟨normal, .inr ⟨rfl, rfl⟩⟩

theorem placeAt_source (reader : SourceReader) (offset : Nat) :
    (reader.placeAt offset).source = reader.source ∧
      (reader.placeAt offset).scope = reader.scope := by
  cases confined : reader.scope with
  | none => simp [placeAt, confined]
  | some spans => simp [placeAt, confined]

theorem sound_seek {reader : SourceReader} (sound : reader.Sound) (offset : Nat) :
    (reader.seek offset).Sound :=
  sound_placeAt (fun spans confined => (sound.confined spans confined).1)
    (Text.isBoundary_floorBoundary reader.source offset)

theorem sound_ofScope (source : Text) (scope : Option (List Span)) :
    (ofScope source scope).Sound := by
  cases scope with
  | none =>
    have start := Text.isBoundary_zero source
    exact ⟨start, start, by simp [ofScope, whole], fun _ => rfl, by simp [ofScope, whole]⟩
  | some spans =>
    have normal := Span.normal_visible source spans
    refine @sound_placeAt { whole source with scope := some (Span.visible source spans) } _
      (fun spans' confined => ?_) (isBoundary_startOf normal 0)
    obtain rfl : _ = spans' := by simpa using confined
    exact normal

end Terminator.SourceReader
