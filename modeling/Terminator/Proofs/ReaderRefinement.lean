import Terminator.Proofs.ReaderRuns

set_option autoImplicit false

namespace Terminator

def visibleCursor (source : Text) (scope : Option (List Span)) (offset : Nat) : IndexedCursor where
  text := visibleText source scope
  rangeStarts := spanPlaces source scope
  place := visibleBefore source scope offset

namespace IndexedCursor

def perform (cursor : IndexedCursor) : HostCall → IndexedCursor
  | .keep => Cursor.keep cursor
  | .skip => Cursor.skip cursor
  | .mark => Cursor.mark cursor
  | .evaluate accepted => (cursor.evaluate accepted).2
  | .decide accepted => (cursor.evaluate accepted).2

def performAll (cursor : IndexedCursor) (calls : List HostCall) : IndexedCursor :=
  calls.foldl perform cursor

end IndexedCursor

namespace SourceReader

def visibleCursor (reader : SourceReader) : IndexedCursor :=
  Terminator.visibleCursor reader.source reader.scope reader.position

theorem mem_visiblePoints_of_peek {reader : SourceReader} {c : Char} (sound : reader.Sound)
    (ahead : reader.peek = some c) :
    (reader.position, c) ∈ visiblePoints reader.source reader.scope :=
  mem_visiblePoints.mpr ⟨sound.position, charAt_of_peek ahead, inScope_of_peek sound ahead⟩

theorem hidden_until_past {reader : SourceReader} {c : Char} (sound : reader.Sound)
    (ahead : reader.peek = some c) :
    reader.position + c.utf8Size ≤ (reader.past c).position ∧
      ∀ point ∈ visiblePoints reader.source reader.scope, reader.position < point.1 →
        (reader.past c).position ≤ point.1 := by
  have onward : ∀ point ∈ visiblePoints reader.source reader.scope, reader.position < point.1 →
      reader.position + c.utf8Size ≤ point.1 := by
    intro point member behind
    obtain ⟨cut, _, _⟩ := mem_visiblePoints.mp member
    exact Text.add_le_of_isBoundary sound.position (charAt_of_peek ahead) cut behind
  rcases past_cases sound ahead with
    ⟨whole, moved⟩ | ⟨spans, span, confined, found, after, before, moved⟩ |
    ⟨spans, span, confined, found, after, ends, moved⟩
  · rw [moved]
    exact ⟨Nat.le_refl _, onward⟩
  · rw [moved]
    exact ⟨Nat.le_refl _, onward⟩
  · have normal := (sound.confined spans confined).1
    have jump := stop_le_startOf normal found
    rw [moved]
    refine ⟨by simp only; omega, fun point member behind => ?_⟩
    have reached := onward point member behind
    rw [confined] at member
    obtain ⟨_, _, other, inSpans, inside⟩ := mem_visiblePoints.mp member
    obtain ⟨index, found'⟩ := List.mem_iff_getElem?.mp inSpans
    rcases Nat.lt_trichotomy index reader.current with less | rfl | more
    · have apart := normal.stop_lt_start found' found less
      omega
    · obtain rfl := Option.some.inj (found.symm.trans found')
      omega
    · exact Nat.le_trans (startOf_le normal found' more) inside.1

theorem visibleBefore_past {reader : SourceReader} {c : Char} (sound : reader.Sound)
    (ahead : reader.peek = some c) :
    visibleBefore reader.source reader.scope (reader.past c).position =
      visibleBefore reader.source reader.scope reader.position + 1 := by
  obtain ⟨reaches, hidden⟩ := hidden_until_past sound ahead
  exact visibleBefore_of_next (mem_visiblePoints_of_peek sound ahead) reaches hidden

theorem place_of_peek_none {reader : SourceReader} (sound : reader.Sound)
    (nothing : reader.peek = none) :
    reader.visibleCursor.place = reader.visibleCursor.text.length := by
  have ended := visibleBefore_of_ended (normalScope_of_sound sound)
  rw [← position_of_peek_none sound nothing] at ended
  exact ended

theorem peek_visibleCursor {reader : SourceReader} (sound : reader.Sound) :
    Cursor.peek reader.visibleCursor = Cursor.peek reader := by
  cases ahead : reader.peek with
  | none =>
    have ended := place_of_peek_none sound ahead
    exact (List.getElem?_eq_none (Nat.le_of_eq ended.symm)).trans ahead.symm
  | some c =>
    have here := getElem?_visibleBefore (normalScope_of_sound sound)
      (mem_visiblePoints_of_peek sound ahead)
    exact here.trans ahead.symm

theorem place_lt_of_peek {reader : SourceReader} {c : Char} (sound : reader.Sound)
    (ahead : reader.peek = some c) :
    reader.visibleCursor.place < reader.visibleCursor.text.length := by
  have here : Cursor.peek reader.visibleCursor = some c := (peek_visibleCursor sound).trans ahead
  exact (List.getElem?_eq_some_iff.mp here).1

theorem exists_peek_of_reading {reader : SourceReader} {spans : List Span} (sound : reader.Sound)
    (confined : reader.scope = some spans) (reading : reader.Reading spans) :
    ∃ c, reader.peek = some c := by
  obtain ⟨span, found, _, before⟩ := reading
  have wellCut := (sound.confined spans confined).1.wellCut span (List.mem_of_getElem? found)
  have inside := Text.le_byteLength_of_isBoundary wellCut.stop
  cases ahead : reader.peek with
  | none =>
    have ended := position_of_peek_none sound ahead
    omega
  | some c => exact ⟨c, rfl⟩

theorem atRangeStart_visibleCursor {reader : SourceReader} (sound : reader.Sound) :
    Cursor.atRangeStart reader.visibleCursor = Cursor.atRangeStart reader := by
  show (spanPlaces reader.source reader.scope).contains
    (visibleBefore reader.source reader.scope reader.position) = reader.atRangeStart
  cases confined : reader.scope with
  | none => simp [spanPlaces, atRangeStart, span?_whole confined]
  | some spans =>
    have normal := (sound.confined spans confined).1
    rw [Bool.eq_iff_iff, List.contains_iff_mem, mem_spanPlaces_iff normal, atRangeStart,
      span?_eq confined]
    simp only [Bool.and_eq_true, decide_eq_true_eq, Option.any_eq_true]
    constructor
    · rintro ⟨index, span, positive, found, same⟩
      have member := List.mem_of_getElem? found
      have nonempty := (normal.wellCut span member).nonempty
      obtain ⟨first, visible⟩ := exists_visible_start normal member
      rcases (sound.confined spans confined).2 with reading | ⟨_, ended⟩
      · obtain ⟨c, ahead⟩ := exists_peek_of_reading sound confined reading
        have point := mem_visiblePoints_of_peek sound ahead
        rw [confined] at point
        have here := eq_of_visibleBefore_eq visible point same
        obtain ⟨current, found', inside⟩ := reading
        obtain rfl := normal.index_unique found found' ⟨by omega, by omega⟩ inside
        exact ⟨positive, span, found, here⟩
      · have inside := Text.le_byteLength_of_isBoundary (normal.wellCut span member).stop
        have less := visibleBefore_lt visible sound.position (by omega)
        omega
    · rintro ⟨positive, span, found, here⟩
      exact ⟨reader.current, span, positive, found, by rw [here]⟩

theorem keep_visibleCursor {reader : SourceReader} (sound : reader.Sound) :
    reader.keep.visibleCursor = Cursor.keep reader.visibleCursor := by
  cases ahead : reader.peek with
  | none =>
    have ended := place_of_peek_none sound ahead
    simp [keep, ahead, Cursor.keep, IndexedCursor.forward, ended]
  | some c =>
    have moved := advances_past sound ahead
    have inside := place_lt_of_peek sound ahead
    have next := visibleBefore_past sound ahead
    simp only [keep, ahead, Cursor.keep, IndexedCursor.forward, inside, ↓reduceIte]
    simp only [visibleCursor, Terminator.visibleCursor, moved.source, moved.scope, next]

-- To a list cursor both ways over a code point are one.
theorem skip_visibleCursor {reader : SourceReader} (sound : reader.Sound) :
    reader.skip.visibleCursor = Cursor.skip reader.visibleCursor := by
  refine Eq.trans ?_ (keep_visibleCursor sound)
  cases ahead : reader.peek with
  | none => simp [keep, skip, ahead]
  | some c => simp [keep, skip, ahead, visibleCursor]

theorem iterate_skip_visibleCursor {reader : SourceReader} (sound : reader.Sound) (count : Nat) :
    (Cursor.skip^[count] reader).visibleCursor = Cursor.skip^[count] reader.visibleCursor := by
  induction count generalizing reader with
  | zero => rfl
  | succ count ih =>
    rw [Function.iterate_succ_apply, Function.iterate_succ_apply, ← skip_visibleCursor sound]
    exact ih (sound_skip sound)

theorem shows_visibleCursor {view : View} {reader : SourceReader} (sound : reader.Sound)
    (shows : Cursor.Shows view reader) : Cursor.Shows view reader.visibleCursor := by
  induction view generalizing reader with
  | nil => exact (peek_visibleCursor sound).trans shows
  | cons point rest ih =>
    obtain ⟨ahead, start, later⟩ := shows
    refine ⟨(peek_visibleCursor sound).trans ahead, (atRangeStart_visibleCursor sound).trans start, ?_⟩
    rw [← skip_visibleCursor sound]
    exact ih (sound_skip sound) later

theorem evaluate_visibleCursor {reader : SourceReader} (sound : reader.Sound) (accepted : TokenSet) :
    (reader.evaluate accepted).1 = (reader.visibleCursor.evaluate accepted).1 ∧
      (reader.evaluate accepted).2.visibleCursor = (reader.visibleCursor.evaluate accepted).2 := by
  by_cases wanted : accepted.contains .automaticSemicolon = true
  · obtain ⟨view, shows⟩ := exists_shows reader.mark
    have marked := shows_visibleCursor (sound_mark sound) shows
    have shows' : Cursor.Shows view (Cursor.mark reader.visibleCursor) := marked
    rw [evaluate, IndexedCursor.evaluate, evaluate_of_shows wanted _ shows,
      evaluate_of_shows wanted _ shows']
    exact ⟨rfl, iterate_skip_visibleCursor (sound_mark sound) (Policy.reach view)⟩
  · have refused : accepted.contains .automaticSemicolon = false := by simpa using wanted
    rw [evaluate, IndexedCursor.evaluate, evaluate_of_refused refused, evaluate_of_refused refused]
    exact ⟨rfl, rfl⟩

theorem perform_visibleCursor {reader : SourceReader} (sound : reader.Sound) (call : HostCall) :
    (reader.perform call).visibleCursor = reader.visibleCursor.perform call := by
  cases call with
  | keep => exact keep_visibleCursor sound
  | skip => exact skip_visibleCursor sound
  | mark => rfl
  | evaluate accepted => exact (evaluate_visibleCursor sound accepted).2
  | decide accepted => exact (evaluate_visibleCursor sound accepted).2

theorem performAll_visibleCursor {reader : SourceReader} (sound : reader.Sound)
    (calls : List HostCall) :
    (reader.performAll calls).visibleCursor = reader.visibleCursor.performAll calls := by
  induction calls generalizing reader with
  | nil => rfl
  | cons call rest ih =>
    have later := ih (sound_perform sound call).1
    rw [perform_visibleCursor sound call] at later
    exact later

-- No code point ends in the hidden text that a seek passes over.
theorem visibleBefore_seek (reader : SourceReader) (offset : Nat)
    (normal : NormalScope reader.source reader.scope) :
    visibleBefore reader.source reader.scope (reader.seek offset).position =
      visibleBefore reader.source reader.scope offset := by
  apply List.countP_congr
  rintro ⟨start, c⟩ member
  obtain ⟨cut, here, inside⟩ := mem_visiblePoints.mp member
  have stop := Text.isBoundary_add_of_charAt cut here
  have floor : start + c.utf8Size ≤ offset ↔ start + c.utf8Size ≤ reader.source.floorBoundary offset :=
    ⟨Text.le_floorBoundary stop, fun less => Nat.le_trans less (Text.floorBoundary_le _ _)⟩
  simp only [decide_eq_true_eq, floor]
  cases confined : reader.scope with
  | none => simp [seek, placeAt, confined]
  | some spans =>
    have normal := normal spans confined
    rw [confined] at inside
    obtain ⟨span, inSpans, after, before⟩ := inside
    have ends := Text.add_le_of_isBoundary cut here (normal.wellCut span inSpans).stop before
    rcases placeAt_cases confined (reader.source.floorBoundary offset) with
      ⟨front, first, back, rfl, early, reaches, placed⟩ | ⟨early, placed⟩
    · rw [seek, placed]
      simp only
      refine ⟨fun less => ?_, fun less => Nat.le_trans less (Nat.le_max_left _ _)⟩
      rcases List.mem_append.mp inSpans with inFront | inBack
      · exact Nat.le_trans ends (early span inFront)
      · have ordered := normal.start_le_of_mem inBack
        have wide := c.utf8Size_pos
        omega
    · rw [seek, placed]
      have inText := Text.le_byteLength_of_isBoundary stop
      have reached := early span inSpans
      simp only
      omega

theorem seek_visibleCursor (reader : SourceReader) (offset : Nat)
    (normal : NormalScope reader.source reader.scope) :
    (reader.seek offset).visibleCursor =
      Terminator.visibleCursor reader.source reader.scope offset := by
  obtain ⟨source, scope⟩ := placeAt_source reader (reader.source.floorBoundary offset)
  have same := visibleBefore_seek reader offset normal
  simp only [seek] at same ⊢
  simp only [visibleCursor, Terminator.visibleCursor, source, scope, same]

theorem peek_eq_none_iff_place {reader : SourceReader} (sound : reader.Sound) :
    reader.peek = none ↔ reader.visibleCursor.place = reader.visibleCursor.text.length := by
  refine ⟨place_of_peek_none sound, fun ended => ?_⟩
  cases ahead : reader.peek with
  | none => rfl
  | some c => exact absurd ended (Nat.ne_of_lt (place_lt_of_peek sound ahead))

theorem place_keep {reader : SourceReader} (sound : reader.Sound) :
    (Cursor.keep reader.visibleCursor).place =
      min (reader.visibleCursor.place + 1) reader.visibleCursor.text.length := by
  cases ahead : reader.peek with
  | none =>
    have ended := place_of_peek_none sound ahead
    simp [Cursor.keep, IndexedCursor.forward, ended]
  | some c =>
    have inside := place_lt_of_peek sound ahead
    simp only [Cursor.keep, IndexedCursor.forward, inside, ↓reduceIte]
    omega

theorem ne_of_position_lt {reader next : SourceReader} (moves : reader.position < next.position) :
    next ≠ reader := by
  rintro rfl
  exact Nat.lt_irrefl _ moves

theorem keep_eq_self_iff {reader : SourceReader} (sound : reader.Sound) :
    reader.keep = reader ↔ reader.peek = none := by
  cases ahead : reader.peek with
  | none => simp [keep, ahead]
  | some c => simpa using ne_of_position_lt (position_lt_of_peek sound ahead).1

theorem skip_eq_self_iff {reader : SourceReader} (sound : reader.Sound) :
    reader.skip = reader ↔ reader.peek = none := by
  cases ahead : reader.peek with
  | none => simp [skip, ahead]
  | some c => simpa using ne_of_position_lt (position_lt_of_peek sound ahead).2

def placedRun (source : Text) (scope : Option (List Span)) (earlier : List ReaderCall) (offset : Nat)
    (calls : List HostCall) : SourceReader :=
  (((ofScope source scope).run earlier).seek offset).performAll calls

theorem sound_placedRun (source : Text) (scope : Option (List Span)) (earlier : List ReaderCall)
    (offset : Nat) (calls : List HostCall) :
    (placedRun source scope earlier offset calls).Sound ∧
      (placedRun source scope earlier offset calls).source = source ∧
      (placedRun source scope earlier offset calls).scope = scope.map (Span.visible source) ∧
      (placedRun source scope earlier offset calls).visibleCursor =
        (Terminator.visibleCursor source (scope.map (Span.visible source)) offset).performAll calls := by
  obtain ⟨before, given, seen⟩ := sound_run_ofScope source scope earlier
  obtain ⟨placedSource, placedScope⟩ := placeAt_source ((ofScope source scope).run earlier)
    (((ofScope source scope).run earlier).source.floorBoundary offset)
  have placed := sound_seek before offset
  obtain ⟨after, advances⟩ := sound_performAll placed calls
  have same := performAll_visibleCursor placed calls
  rw [seek_visibleCursor _ offset (normalScope_of_sound before), given, seen] at same
  exact ⟨after, advances.source.trans (placedSource.trans given),
    advances.scope.trans (placedScope.trans seen), same⟩

/-- A reader that has been placed is, through all calls, the list cursor over what it sees. -/
theorem refines_visibleCursor (source : Text) (scope : Option (List Span))
    (earlier : List ReaderCall) (offset : Nat) (calls : List HostCall) :
    let visible := scope.map (Span.visible source)
    let reader := placedRun source scope earlier offset calls
    let cursor := (Terminator.visibleCursor source visible offset).performAll calls
    cursor.place = visibleBefore source visible reader.position ∧
      Cursor.peek reader = Cursor.peek cursor ∧
      Cursor.atRangeStart reader = Cursor.atRangeStart cursor ∧
      (∀ advance ∈ [HostCall.keep, HostCall.skip],
        visibleBefore source visible (reader.perform advance).position =
            min (cursor.place + 1) (visibleText source visible).length ∧
          (reader.perform advance = reader ↔ cursor.place = (visibleText source visible).length)) ∧
      (∀ accepted,
        (reader.evaluate accepted).1 = (cursor.evaluate accepted).1 ∧
          visibleBefore source visible (reader.evaluate accepted).2.position =
            (cursor.evaluate accepted).2.place) ∧
      ∀ source' scope' earlier' offset',
        Terminator.visibleCursor source' (scope'.map (Span.visible source')) offset' =
            Terminator.visibleCursor source visible offset →
          ∀ accepted, ((placedRun source' scope' earlier' offset' calls).evaluate accepted).1 =
            (reader.evaluate accepted).1 := by
  intro visible reader cursor
  obtain ⟨sound, sameSource, sameScope, same⟩ := sound_placedRun source scope earlier offset calls
  have same : reader.visibleCursor = cursor := same
  have counts : ∀ next : SourceReader, next.source = reader.source → next.scope = reader.scope →
      visibleBefore source visible next.position = next.visibleCursor.place := by
    intro next nextSource nextScope
    rw [← sameSource, show visible = reader.scope from sameScope.symm]
    simp only [visibleCursor, Terminator.visibleCursor, nextSource, nextScope]
    rfl
  have seen : reader.visibleCursor.text = visibleText source visible := by
    rw [← sameSource, show visible = reader.scope from sameScope.symm]
    rfl
  have moves := place_keep sound
  have ended := peek_eq_none_iff_place sound
  rw [seen, same] at moves ended
  refine ⟨?_, ?_, ?_, ?_, ?_, ?_⟩
  · rw [counts reader rfl rfl, same]
  · rw [← same, peek_visibleCursor sound]
  · rw [← same, atRangeStart_visibleCursor sound]
  · intro advance member
    have performed := sound_perform sound advance
    rw [counts _ performed.2.source performed.2.scope, perform_visibleCursor sound, same, ← ended]
    rcases List.mem_cons.mp member with rfl | later
    · exact ⟨moves, keep_eq_self_iff sound⟩
    · obtain rfl := List.mem_singleton.mp later
      exact ⟨moves, skip_eq_self_iff sound⟩
  · intro accepted
    obtain ⟨verdict, reached⟩ := evaluate_visibleCursor sound accepted
    have advances := (sound_evaluate sound accepted).2
    rw [counts _ advances.source advances.scope, reached, verdict, same]
    exact ⟨rfl, rfl⟩
  · intro source' scope' earlier' offset' alike accepted
    obtain ⟨sound', _, _, same'⟩ := sound_placedRun source' scope' earlier' offset' calls
    have answer := (evaluate_visibleCursor sound accepted).1
    have answer' := (evaluate_visibleCursor sound' accepted).1
    rw [same', alike] at answer'
    rw [same] at answer
    exact answer'.trans answer.symm

theorem hidden_text_of_two_sources :
    let narrow := ['a', 'b', '}']
    let wide := ['a', 'é', '}']
    let spans : List Span := [⟨0, 1⟩, ⟨2, 3⟩]
    let spans' : List Span := [⟨0, 1⟩, ⟨3, 4⟩]
    let accepted := TokenSet.singleton .automaticSemicolon
    Terminator.visibleCursor wide (some (Span.visible wide spans')) 2 =
        Terminator.visibleCursor narrow (some (Span.visible narrow spans)) 1 ∧
      ((placedRun wide (some spans') [] 2 []).evaluate accepted).1 =
        ((placedRun narrow (some spans) [] 1 []).evaluate accepted).1 := by
  intro narrow wide spans spans' accepted
  have alike : Terminator.visibleCursor wide (some (Span.visible wide spans')) 2 =
      Terminator.visibleCursor narrow (some (Span.visible narrow spans)) 1 := by decide
  have refined := refines_visibleCursor narrow (some spans) [] 1 []
  exact ⟨alike, refined.2.2.2.2.2 wide (some spans') [] 2 alike accepted⟩

end SourceReader

end Terminator
