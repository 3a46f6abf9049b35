import Terminator.Proofs.HostProtocol
import Terminator.Proofs.SurveySites

set_option autoImplicit false

namespace Terminator

namespace SourceReader

structure NotBefore (offset : Nat) (reader : SourceReader) : Prop where
  position : offset ≤ reader.position
  tokenStart : offset ≤ reader.tokenStart

theorem notBefore_skip {reader : SourceReader} {offset : Nat} (sound : reader.Sound)
    (behind : NotBefore offset reader) : NotBefore offset reader.skip := by
  cases ahead : reader.peek with
  | none => simpa [skip, ahead] using behind
  | some c =>
    have moved : offset ≤ (reader.past c).position :=
      Nat.le_trans behind.position (Nat.le_of_lt (position_lt_past sound ahead))
    simp only [skip, ahead]
    exact ⟨moved, moved⟩

theorem notBefore_iterate_skip {reader : SourceReader} {offset : Nat} (sound : reader.Sound)
    (behind : NotBefore offset reader) (count : Nat) :
    NotBefore offset (Cursor.skip^[count] reader) := by
  induction count generalizing reader with
  | zero => exact behind
  | succ count ih => exact ih (sound_skip sound) (notBefore_skip sound behind)

-- The start of the token runs ahead of its mark, which the span does not follow.
theorem tokenSpan_of_marked {reader : SourceReader} {offset : Nat}
    (marked : reader.marked = some offset) (begun : offset ≤ reader.tokenStart) :
    reader.tokenSpan = ⟨offset, offset⟩ := by
  simp [tokenSpan, marked, begun]

theorem placeAt_begins_token (reader : SourceReader) (offset : Nat) :
    (reader.placeAt offset).tokenStart = (reader.placeAt offset).position ∧
      (reader.placeAt offset).marked = none := by
  cases confined : reader.scope with
  | none => simp [placeAt, confined]
  | some spans => simp [placeAt, confined]

theorem evaluate_of_no_token {reader : SourceReader} (sound : reader.Sound)
    (begins : reader.tokenStart = reader.position) (unmarked : reader.marked = none)
    (accepted : TokenSet) :
    let later := (reader.evaluate accepted).2
    later.tokenSpan = ⟨reader.position, reader.position⟩ ∧ reader.position ≤ later.position ∧
      match accepted.contains .automaticSemicolon with
      | true => later.marked = some reader.position
      | false => later.marked = none ∧ later.position = reader.position := by
  cases wanted : accepted.contains .automaticSemicolon with
  | true =>
    obtain ⟨count, moved⟩ := evaluate_skips wanted reader
    have start : NotBefore reader.position reader.mark := ⟨Nat.le_refl _, Nat.le_of_eq begins.symm⟩
    have behind := notBefore_iterate_skip (sound_mark sound) start count
    have marked : (reader.evaluate accepted).2.marked = some reader.position :=
      marked_evaluate_of_wanted wanted
    rw [moved] at marked ⊢
    exact ⟨tokenSpan_of_marked marked behind.tokenStart, behind.position, marked⟩
  | false =>
    have span : reader.tokenSpan = ⟨reader.position, reader.position⟩ := by
      simp [tokenSpan, begins, unmarked]
    rw [evaluate_refused wanted]
    exact ⟨span, Nat.le_refl _, unmarked, rfl⟩

end SourceReader

theorem Trial.reader_run (accepted : TokenSet) (text : Text) :
    (run accepted text).reader = ((SourceReader.whole text).evaluate accepted).2 := by
  have ends := SourceReader.blankRunWithin (SourceReader.whole text).mark
  cases wanted : accepted.contains .automaticSemicolon with
  | true => exact (Recorded.skippedFrom_evaluate wanted ends).2.1
  | false =>
    have answer := Recorded.evaluate_refused wanted ends
    rw [SourceReader.evaluate_refused wanted]
    exact congrArg (·.2.inner) answer

theorem Trial.tokenSpan_run (accepted : TokenSet) (text : Text) :
    (run accepted text).reader.tokenSpan = ⟨0, 0⟩ := by
  have sound := SourceReader.sound_ofScope text none
  rw [reader_run]
  exact (SourceReader.evaluate_of_no_token sound rfl rfl accepted).1

/-- Whatever a semicolon is decided by, its token is empty and lies where the reader was placed. -/
theorem SourceReader.token_empty_where_placed (source : Text) (scope : Option (List Span))
    (earlier : List ReaderCall) (offset : Nat) (accepted : TokenSet) :
    let placed := ((ofScope source scope).run earlier).seek offset
    let later := (placed.evaluate accepted).2
    later.tokenSpan = ⟨placed.position, placed.position⟩ ∧ placed.position ≤ later.position ∧
      (match accepted.contains .automaticSemicolon with
        | true => later.marked = some placed.position
        | false => later.marked = none ∧ later.position = placed.position) ∧
      ∀ kinds text, (Trial.run kinds text).isOrderly = true ∧
        Expectation.firstFailure? (Trial.run kinds text) [.tokenAt 0] = none := by
  intro placed later
  have sound := (sound_run (sound_ofScope source scope) earlier).1
  have begins := placeAt_begins_token ((ofScope source scope).run earlier)
    (((ofScope source scope).run earlier).source.floorBoundary offset)
  obtain ⟨span, onward, marked⟩ :=
    evaluate_of_no_token (sound_seek sound offset) begins.1 begins.2 accepted
  refine ⟨span, onward, marked, fun kinds text => ⟨Trial.isOrderly_run kinds text, ?_⟩⟩
  simp [Expectation.firstFailure?, Expectation.failure?, Trial.tokenSpan_run]

end Terminator
