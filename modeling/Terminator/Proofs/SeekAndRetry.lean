import Terminator.Proofs.ReaderRefinement
import Terminator.Proofs.SurveySites

set_option autoImplicit false

namespace Terminator.SourceReader

/-- Where a seek ends: at the first visible code point from the boundary before the offset on, or
at the end of the source if there is none. -/
def LandsAt (source : Text) (scope : Option (List Span)) (offset position : Nat) : Prop :=
  ∃ cut, IsGreatest {cut | source.IsBoundary cut ∧ cut ≤ min offset source.byteLength} cut ∧
    (IsLeast {start | cut ≤ start ∧ ∃ c, (start, c) ∈ visiblePoints source scope} position ∨
      (∀ point ∈ visiblePoints source scope, point.1 < cut) ∧ position = source.byteLength)

-- The tokens of the two readers may differ.
structure SamePlace (reader other : SourceReader) : Prop where
  source : other.source = reader.source
  scope : other.scope = reader.scope
  position : other.position = reader.position

variable {reader other : SourceReader}

theorem floorBoundary_le_position_seek (reader : SourceReader) (offset : Nat) :
    reader.source.floorBoundary offset ≤ (reader.seek offset).position := by
  have cut := Text.isBoundary_floorBoundary reader.source offset
  have reached := le_position_seek reader cut
  rwa [seek, Text.floorBoundary_eq_self cut] at reached

theorem position_seek_le (normal : NormalScope reader.source reader.scope) {offset : Nat}
    {point : Nat × Char} (member : point ∈ visiblePoints reader.source reader.scope)
    (behind : reader.source.floorBoundary offset ≤ point.1) :
    (reader.seek offset).position ≤ point.1 := by
  obtain ⟨cut, here, inside⟩ := mem_visiblePoints.mp member
  cases confined : reader.scope with
  | none => simpa [seek, placeAt, confined] using behind
  | some spans =>
    rw [confined] at inside
    obtain ⟨span, inSpans, after, before⟩ := inside
    rcases placeAt_cases confined (reader.source.floorBoundary offset) with
      ⟨front, first, back, rfl, early, _, placed⟩ | ⟨early, _⟩
    · rw [seek, placed]
      rcases List.mem_append.mp inSpans with inFront | inBack
      · have passed := early span inFront
        omega
      · have ordered := (normal _ confined).start_le_of_mem inBack
        exact Nat.max_le.mpr ⟨behind, Nat.le_trans ordered after⟩
    · have passed := early span inSpans
      omega

theorem landsAt_seek (sound : reader.Sound) (offset : Nat) :
    LandsAt reader.source reader.scope offset (reader.seek offset).position := by
  have normal := normalScope_of_sound sound
  have placed := sound_seek sound offset
  obtain ⟨source, scope⟩ := placeAt_source reader (reader.source.floorBoundary offset)
  refine ⟨_, Text.isGreatest_floorBoundary reader.source offset, ?_⟩
  cases ahead : (reader.seek offset).peek with
  | none =>
    have ended : (reader.seek offset).position = reader.source.byteLength :=
      (position_of_peek_none placed ahead).trans (congrArg Text.byteLength source)
    refine .inr ⟨fun point member => ?_, ended⟩
    have inside := Text.lt_byteLength_of_charAt (mem_visiblePoints.mp member).2.1
    by_contra behind
    have reached := position_seek_le normal member (Nat.le_of_not_lt behind)
    omega
  | some c =>
    have here : ((reader.seek offset).position, c) ∈ visiblePoints (reader.seek offset).source
        (reader.seek offset).scope := mem_visiblePoints_of_peek placed ahead
    rw [seek, source, scope, ← seek] at here
    refine .inl ⟨⟨floorBoundary_le_position_seek reader offset, c, here⟩, ?_⟩
    rintro start ⟨behind, d, member⟩
    exact position_seek_le normal member behind

theorem position_seek_mono (sound : reader.Sound) {offset later : Nat} (less : offset ≤ later) :
    (reader.seek offset).position ≤ (reader.seek later).position := by
  have floors := Text.floorBoundary_mono reader.source less
  obtain ⟨cut, greatest, lands⟩ := landsAt_seek sound later
  obtain rfl := greatest.unique (Text.isGreatest_floorBoundary reader.source later)
  rcases lands with ⟨⟨behind, c, member⟩, _⟩ | ⟨_, ended⟩
  · exact position_seek_le (normalScope_of_sound sound) member (Nat.le_trans floors behind)
  · have boundary := (sound_seek sound offset).position
    have inside := Text.le_byteLength_of_isBoundary boundary
    rw [seek, (placeAt_source reader _).1, ← seek] at inside
    omega

-- The span that is found for the position of a reader is the one that it reads.
theorem seek_position (sound : reader.Sound) :
    reader.seek reader.position =
      { reader with tokenStart := reader.position, marked := none } := by
  rw [seek, Text.floorBoundary_eq_self sound.position]
  cases confined : reader.scope with
  | none =>
    have first := sound.whole confined
    simp [placeAt, confined, first]
  | some spans =>
    obtain ⟨normal, place⟩ := sound.confined spans confined
    rcases placeAt_cases confined reader.position with
      ⟨front, first, back, rfl, early, reaches, placed⟩ | ⟨early, placed⟩
    · have found : (front ++ first :: back)[front.length]? = some first := by simp
      rcases place with ⟨span, current, after, before⟩ | ⟨_, ended⟩
      · have same : front.length = reader.current := by
          rcases Nat.lt_trichotomy front.length reader.current with less | same | more
          · have apart := normal.stop_lt_start found current less
            omega
          · exact same
          · rw [List.getElem?_append_left more] at current
            have passed := early span (List.mem_of_getElem? current)
            omega
        rw [← same, found] at current
        obtain rfl := Option.some.inj current
        rw [placed, same, Nat.max_eq_left after, confined]
      · have inside := Text.le_byteLength_of_isBoundary (normal.wellCut first (by simp)).stop
        omega
    · rcases place with ⟨span, current, _, before⟩ | ⟨finished, ended⟩
      · have passed := early span (List.mem_of_getElem? current)
        omega
      · rw [placed, ← finished, ← ended, confined]

theorem samePlace_seek (sound : reader.Sound) : SamePlace reader (reader.seek reader.position) := by
  rw [seek_position sound]
  exact ⟨rfl, rfl, rfl⟩

theorem SamePlace.visibleCursor_eq (same : SamePlace reader other) :
    other.visibleCursor = reader.visibleCursor := by
  simp only [visibleCursor, same.source, same.scope, same.position]

-- Where a reader stands is told by how much of the visible text is behind it.
theorem samePlace_of_visibleCursor (sound : reader.Sound) (sound' : other.Sound)
    (source : other.source = reader.source) (scope : other.scope = reader.scope)
    (same : other.visibleCursor = reader.visibleCursor) : SamePlace reader other := by
  refine ⟨source, scope, ?_⟩
  have peeks : other.peek = reader.peek :=
    (peek_visibleCursor sound').symm.trans
      ((congrArg Cursor.peek same).trans (peek_visibleCursor sound))
  cases ahead : reader.peek with
  | none =>
    rw [position_of_peek_none sound ahead, position_of_peek_none sound' (peeks.trans ahead), source]
  | some c =>
    have point := mem_visiblePoints_of_peek sound ahead
    have point' := mem_visiblePoints_of_peek sound' (peeks.trans ahead)
    have counts := congrArg IndexedCursor.place same
    simp only [visibleCursor, Terminator.visibleCursor, source, scope] at counts point'
    exact eq_of_visibleBefore_eq point' point counts

theorem SamePlace.performAll (same : SamePlace reader other) (sound : reader.Sound)
    (sound' : other.Sound) (calls : List HostCall) :
    SamePlace (reader.performAll calls) (other.performAll calls) := by
  obtain ⟨after, advances⟩ := sound_performAll sound calls
  obtain ⟨after', advances'⟩ := sound_performAll sound' calls
  apply samePlace_of_visibleCursor after after'
  · rw [advances.source, advances'.source, same.source]
  · rw [advances.scope, advances'.scope, same.scope]
  · rw [performAll_visibleCursor sound, performAll_visibleCursor sound', same.visibleCursor_eq]

theorem SamePlace.sees (same : SamePlace reader other) (sound : reader.Sound)
    (sound' : other.Sound) :
    other.peek = reader.peek ∧ other.atRangeStart = reader.atRangeStart := by
  have cursors := same.visibleCursor_eq
  have peeks := peek_visibleCursor sound'
  have starts := atRangeStart_visibleCursor sound'
  rw [cursors] at peeks starts
  exact ⟨peeks.symm.trans (peek_visibleCursor sound),
    starts.symm.trans (atRangeStart_visibleCursor sound)⟩

theorem SamePlace.evaluate (same : SamePlace reader other) (sound : reader.Sound)
    (sound' : other.Sound) (accepted : TokenSet) :
    (other.evaluate accepted).1 = (reader.evaluate accepted).1 ∧
      (other.evaluate accepted).2.position = (reader.evaluate accepted).2.position := by
  have answer := (evaluate_visibleCursor sound' accepted).1
  rw [same.visibleCursor_eq] at answer
  exact ⟨answer.trans (evaluate_visibleCursor sound accepted).1.symm,
    (same.performAll sound sound' [.evaluate accepted]).position⟩

/-- A seek depends on nothing that was done before, and a host that goes back to where it was finds
all as it was there. -/
theorem seek_lands_and_retries (source : Text) (scope : Option (List Span))
    (calls : List ReaderCall) :
    let visible := scope.map (Span.visible source)
    let reader := (ofScope source scope).run calls
    (∀ offset, ∀ other : SourceReader, other.source = source → other.scope = visible →
        other.seek offset = reader.seek offset) ∧
      (∀ offset, LandsAt source visible offset (reader.seek offset).position) ∧
      (∀ offset later, offset ≤ later →
        (reader.seek offset).position ≤ (reader.seek later).position) ∧
      reader.seek reader.position =
        { reader with tokenStart := reader.position, marked := none } ∧
      (∀ later,
        let kept := reader.performAll later
        let again := (reader.seek reader.position).performAll later
        again.position = kept.position ∧ again.peek = kept.peek ∧
          again.atRangeStart = kept.atRangeStart) ∧
      ∀ accepted,
        let first := reader.evaluate accepted
        let second := (first.2.seek reader.position).evaluate accepted
        second.1 = first.1 ∧ second.2.position = first.2.position ∧
          (accepted.contains .automaticSemicolon = true → second.2.marked = first.2.marked) := by
  intro visible reader
  obtain ⟨sound, given, seen⟩ : reader.Sound ∧ reader.source = source ∧ reader.scope = visible :=
    sound_run_ofScope source scope calls
  have back := samePlace_seek sound
  have placed := sound_seek sound reader.position
  refine ⟨?_, ?_, fun _ _ => position_seek_mono sound, seek_position sound, ?_, ?_⟩
  · intro offset other source' scope'
    exact seek_congr (source'.trans given.symm) (scope'.trans seen.symm) offset
  · rw [← given, ← seen]
    exact landsAt_seek sound
  · intro later kept again
    have same := back.performAll sound placed later
    have sees := same.sees (sound_performAll sound later).1 (sound_performAll placed later).1
    exact ⟨same.position, sees⟩
  · intro accepted first second
    have advances := (sound_evaluate sound accepted).2
    have rewound : first.2.seek reader.position = reader.seek reader.position :=
      seek_congr advances.source advances.scope reader.position
    obtain ⟨verdict, position⟩ := back.evaluate sound placed accepted
    simp only [second, first, rewound]
    refine ⟨verdict, position, fun wanted => ?_⟩
    rw [marked_evaluate_of_wanted wanted, marked_evaluate_of_wanted wanted, back.position]

theorem retry_across_hidden_text :
    let source : Text := ['a', 'é', '\n', 'b', ' ']
    let scope : Option (List Span) := some [⟨5, 6⟩, ⟨3, 4⟩]
    let reader := (ofScope source scope).run [.seek 2, .host .mark]
    let accepted := TokenSet.singleton .automaticSemicolon
    let first := reader.evaluate accepted
    let second := (first.2.seek reader.position).evaluate accepted
    reader.position = 3 ∧ first.2.position = 5 ∧ first.2.marked = some 3 ∧
      (reader.seek 2).position ≤ (reader.seek 4).position ∧
      (ofScope source scope).seek 2 = reader.seek 2 ∧
      second.1 = first.1 ∧ second.2.position = first.2.position ∧
      second.2.marked = first.2.marked := by
  intro source scope reader accepted first second
  have stops : reader.position = 3 ∧ first.2.position = 5 ∧ first.2.marked = some 3 := by decide
  obtain ⟨place, reached, marked⟩ := stops
  have wanted : accepted.contains .automaticSemicolon = true := by decide
  have start := ofScope_source source scope
  have shown := seek_lands_and_retries source scope [.seek 2, .host .mark]
  -- With the set known, unifying the two runs would evaluate them.
  clear_value accepted
  obtain ⟨same, _, mono, _, _, retried⟩ := shown
  have again := retried accepted
  refine ⟨place, reached, marked, mono 2 4 (by decide), same 2 _ start.1 start.2, ?_⟩
  exact ⟨again.1, again.2.1, again.2.2 wanted⟩

end Terminator.SourceReader
