import Terminator.Proofs.DecisionPolicy
import Terminator.Proofs.ReaderInvariant
import Terminator.Proofs.VisibleText
import Terminator.Scanner

set_option autoImplicit false

namespace Terminator

inductive HostCall where
  | keep
  | skip
  | mark
  | evaluate (accepted : TokenSet)
  | decide (accepted : TokenSet)
  deriving DecidableEq, Repr

inductive ReaderCall where
  | seek (offset : Nat)
  | host (call : HostCall)
  deriving DecidableEq, Repr

namespace SourceReader

def perform (reader : SourceReader) : HostCall → SourceReader
  | .keep => reader.keep
  | .skip => reader.skip
  | .mark => reader.mark
  | .evaluate accepted => (reader.evaluate accepted).2
  | .decide accepted => (Scanner.create.scan accepted reader).2

def performAll (reader : SourceReader) (calls : List HostCall) : SourceReader :=
  calls.foldl perform reader

def respond (reader : SourceReader) : ReaderCall → SourceReader
  | .seek offset => reader.seek offset
  | .host call => reader.perform call

def run (reader : SourceReader) (calls : List ReaderCall) : SourceReader :=
  calls.foldl respond reader

structure Advances (reader next : SourceReader) : Prop where
  source : next.source = reader.source
  scope : next.scope = reader.scope
  position : reader.position ≤ next.position

theorem Advances.refl (reader : SourceReader) : reader.Advances reader :=
  ⟨rfl, rfl, Nat.le_refl _⟩

theorem Advances.trans {first second third : SourceReader} (early : first.Advances second)
    (late : second.Advances third) : first.Advances third :=
  ⟨late.source.trans early.source, late.scope.trans early.scope,
    Nat.le_trans early.position late.position⟩

theorem advances_past {reader : SourceReader} {c : Char} (sound : reader.Sound)
    (ahead : reader.peek = some c) : reader.Advances (reader.past c) := by
  refine ⟨?_, ?_, Nat.le_of_lt (position_lt_past sound ahead)⟩
  all_goals
    rcases past_cases sound ahead with
      ⟨_, moved⟩ | ⟨_, _, _, _, _, _, moved⟩ | ⟨_, _, _, _, _, _, moved⟩ <;> rw [moved]

theorem advances_keep {reader : SourceReader} (sound : reader.Sound) :
    reader.Advances reader.keep := by
  cases ahead : reader.peek with
  | none => simpa [keep, ahead] using Advances.refl reader
  | some c => simpa [keep, ahead] using advances_past sound ahead

theorem advances_skip {reader : SourceReader} (sound : reader.Sound) :
    reader.Advances reader.skip := by
  cases ahead : reader.peek with
  | none => simpa [skip, ahead] using Advances.refl reader
  | some c =>
    have moved := advances_past sound ahead
    simp only [skip, ahead]
    exact ⟨moved.source, moved.scope, moved.position⟩

theorem sound_iterate_skip {reader : SourceReader} (sound : reader.Sound) (count : Nat) :
    (Cursor.skip^[count] reader).Sound ∧ reader.Advances (Cursor.skip^[count] reader) :=
  Function.Iterate.rec (fun next => next.Sound ∧ reader.Advances next)
    ⟨sound, Advances.refl reader⟩
    (fun _ before => ⟨sound_skip before.1, before.2.trans (advances_skip before.1)⟩) count

theorem exists_shows (reader : SourceReader) : ∃ view, Cursor.Shows view reader :=
  Cursor.exists_shows remaining remaining_skip_lt reader

theorem evaluate_skips {accepted : TokenSet}
    (wanted : accepted.contains .automaticSemicolon = true) (reader : SourceReader) :
    ∃ count, (reader.evaluate accepted).2 = Cursor.skip^[count] reader.mark := by
  obtain ⟨view, shows⟩ := exists_shows reader.mark
  refine ⟨Policy.reach view, ?_⟩
  rw [evaluate, evaluate_of_shows wanted _ shows]
  rfl

theorem evaluate_refused {accepted : TokenSet}
    (refused : accepted.contains .automaticSemicolon = false) (reader : SourceReader) :
    reader.evaluate accepted = (Verdict.ofReason .notAccepted, reader) :=
  evaluate_of_refused refused _

theorem evaluate_reaches (accepted : TokenSet) (reader : SourceReader) :
    (reader.evaluate accepted).2 = reader ∨
      ∃ count, (reader.evaluate accepted).2 = Cursor.skip^[count] reader.mark := by
  cases wanted : accepted.contains .automaticSemicolon with
  | true => exact .inr (evaluate_skips wanted reader)
  | false => exact .inl (by rw [evaluate_refused wanted])

theorem sound_evaluate {reader : SourceReader} (sound : reader.Sound) (accepted : TokenSet) :
    (reader.evaluate accepted).2.Sound ∧ reader.Advances (reader.evaluate accepted).2 := by
  rcases evaluate_reaches accepted reader with still | ⟨count, moved⟩
  · rw [still]
    exact ⟨sound, Advances.refl reader⟩
  · have marked : reader.Advances reader.mark := ⟨rfl, rfl, Nat.le_refl _⟩
    have skipped := sound_iterate_skip (sound_mark sound) count
    rw [moved]
    exact ⟨skipped.1, marked.trans skipped.2⟩

theorem sound_perform {reader : SourceReader} (sound : reader.Sound) (call : HostCall) :
    (reader.perform call).Sound ∧ reader.Advances (reader.perform call) := by
  cases call with
  | keep => exact ⟨sound_keep sound, advances_keep sound⟩
  | skip => exact ⟨sound_skip sound, advances_skip sound⟩
  | mark => exact ⟨sound_mark sound, rfl, rfl, Nat.le_refl _⟩
  | evaluate accepted => exact sound_evaluate sound accepted
  | decide accepted => exact sound_evaluate sound accepted

theorem sound_performAll {reader : SourceReader} (sound : reader.Sound) (calls : List HostCall) :
    (reader.performAll calls).Sound ∧ reader.Advances (reader.performAll calls) := by
  induction calls generalizing reader with
  | nil => exact ⟨sound, Advances.refl reader⟩
  | cons call rest ih =>
    have first := sound_perform sound call
    have later := ih first.1
    exact ⟨later.1, first.2.trans later.2⟩

theorem sound_respond {reader : SourceReader} (sound : reader.Sound) (call : ReaderCall) :
    (reader.respond call).Sound ∧ (reader.respond call).source = reader.source ∧
      (reader.respond call).scope = reader.scope := by
  cases call with
  | seek offset => exact ⟨sound_seek sound offset, placeAt_source reader _⟩
  | host call =>
    obtain ⟨after, advances⟩ := sound_perform sound call
    exact ⟨after, advances.source, advances.scope⟩

theorem sound_run {reader : SourceReader} (sound : reader.Sound) (calls : List ReaderCall) :
    (reader.run calls).Sound ∧ (reader.run calls).source = reader.source ∧
      (reader.run calls).scope = reader.scope := by
  induction calls generalizing reader with
  | nil => exact ⟨sound, rfl, rfl⟩
  | cons call rest ih =>
    obtain ⟨after, source, scope⟩ := sound_respond sound call
    obtain ⟨later, source', scope'⟩ := ih after
    exact ⟨later, source'.trans source, scope'.trans scope⟩

theorem normalScope_of_sound {reader : SourceReader} (sound : reader.Sound) :
    NormalScope reader.source reader.scope :=
  fun spans confined => (sound.confined spans confined).1

theorem inScope_of_peek {reader : SourceReader} {c : Char} (sound : reader.Sound)
    (ahead : reader.peek = some c) : InScope reader.scope reader.position := by
  cases confined : reader.scope with
  | none => trivial
  | some spans =>
    obtain ⟨span, found, after, before⟩ := reading_of_peek sound confined ahead
    exact ⟨span, List.mem_of_getElem? found, after, before⟩

-- Only a reader that is finished has nothing ahead, and it stands at the end of the source.
theorem position_of_peek_none {reader : SourceReader} (sound : reader.Sound)
    (nothing : reader.peek = none) : reader.position = reader.source.byteLength := by
  cases confined : reader.scope with
  | none =>
    rw [peek, span?_whole confined] at nothing
    exact (Text.charAt_eq_none_iff sound.position).mp nothing
  | some spans =>
    obtain ⟨normal, ⟨span, found, after, before⟩ | finished⟩ := sound.confined spans confined
    · rw [peek, span?_eq confined, found] at nothing
      simp only [before, ↓reduceIte] at nothing
      exact (Text.charAt_eq_none_iff sound.position).mp nothing
    · exact finished.2

theorem peek_eq_none_iff {reader : SourceReader} (sound : reader.Sound) :
    reader.peek = none ↔
      ∀ offset c, (offset, c) ∈ reader.source.located → InScope reader.scope offset →
        offset < reader.position := by
  constructor
  · intro nothing offset c member _
    rw [position_of_peek_none sound nothing]
    exact Text.lt_byteLength_of_charAt (Text.mem_located_iff.mp member).2
  · intro behind
    cases ahead : reader.peek with
    | none => rfl
    | some c =>
      have here := Text.mem_located_iff.mpr ⟨sound.position, charAt_of_peek ahead⟩
      exact absurd (behind _ c here (inScope_of_peek sound ahead)) (Nat.lt_irrefl _)

theorem position_lt_of_peek {reader : SourceReader} {c : Char} (sound : reader.Sound)
    (ahead : reader.peek = some c) :
    reader.position < reader.keep.position ∧ reader.position < reader.skip.position := by
  have moved := position_lt_past sound ahead
  simpa [keep, skip, ahead] using moved

theorem isBoundary_tokenSpan {reader : SourceReader} (sound : reader.Sound) :
    reader.source.IsBoundary reader.tokenSpan.start ∧
      reader.source.IsBoundary reader.tokenSpan.stop := by
  have stop : reader.source.IsBoundary (reader.marked.getD reader.position) := by
    cases marked : reader.marked with
    | none => exact sound.position
    | some offset => exact sound.marked offset marked
  refine ⟨?_, stop⟩
  rcases Nat.le_total reader.tokenStart (reader.marked.getD reader.position) with less | less
  · simpa [tokenSpan, less] using sound.tokenStart
  · simpa [tokenSpan, less] using stop

theorem ofScope_source (source : Text) (scope : Option (List Span)) :
    (ofScope source scope).source = source ∧
      (ofScope source scope).scope = scope.map (Span.visible source) := by
  cases scope with
  | none => exact ⟨rfl, rfl⟩
  | some spans => exact placeAt_source _ _

theorem sound_run_ofScope (source : Text) (scope : Option (List Span)) (calls : List ReaderCall) :
    ((ofScope source scope).run calls).Sound ∧
      ((ofScope source scope).run calls).source = source ∧
      ((ofScope source scope).run calls).scope = scope.map (Span.visible source) := by
  obtain ⟨sound, sameSource, sameScope⟩ := sound_run (sound_ofScope source scope) calls
  obtain ⟨given, seen⟩ := ofScope_source source scope
  exact ⟨sound, sameSource.trans given, sameScope.trans seen⟩

/-- Wherever its calls have led it, a reader stands between two code points of its source, in the
span that it reads or behind the last one, and from there on it only moves forwards. -/
theorem run_keeps_invariant (source : Text) (scope : Option (List Span))
    (calls : List ReaderCall) :
    let reader := (ofScope source scope).run calls
    reader.source = source ∧ reader.scope = scope.map (Span.visible source) ∧
      (∀ offset ∈ [reader.position, reader.tokenSpan.start, reader.tokenSpan.stop] ++
          reader.marked.toList, source.IsBoundary offset ∧ offset ≤ source.byteLength) ∧
      reader.tokenSpan.start ≤ reader.tokenSpan.stop ∧
      (match reader.scope with
        | none => reader.current = 0
        | some spans => reader.Reading spans ∨ reader.Finished spans) ∧
      (source.takeBytes reader.position).byteLength = reader.position ∧
      (reader.peek = none ↔ ∀ offset c, (offset, c) ∈ source.located →
        InScope reader.scope offset → offset < reader.position) ∧
      (∀ later, reader.position ≤ (reader.performAll later).position) ∧
      (∀ c, reader.peek = some c →
        reader.position < reader.keep.position ∧ reader.position < reader.skip.position) := by
  intro reader
  obtain ⟨sound, sameSource, sameScope⟩ := sound_run (sound_ofScope source scope) calls
  have atStart := ofScope_source source scope
  have given : reader.source = source := sameSource.trans atStart.1
  have span := isBoundary_tokenSpan sound
  have cut : ∀ offset, reader.source.IsBoundary offset →
      source.IsBoundary offset ∧ offset ≤ source.byteLength := by
    intro offset boundary
    rw [given] at boundary
    exact ⟨boundary, Text.le_byteLength_of_isBoundary boundary⟩
  refine ⟨given, sameScope.trans atStart.2, ?_, Nat.min_le_right _ _, ?_, ?_, ?_, ?_, ?_⟩
  · intro offset member
    apply cut
    simp only [List.mem_append, List.mem_cons, List.not_mem_nil, or_false, Option.mem_toList] at member
    rcases member with (rfl | rfl | rfl) | marked
    · exact sound.position
    · exact span.1
    · exact span.2
    · exact sound.marked offset marked
  · cases confined : reader.scope with
    | none => exact sound.whole confined
    | some spans => exact (sound.confined spans confined).2
  · rw [Text.byteLength_takeBytes, Text.ceilBoundary_eq_self (cut _ sound.position).1]
  · rw [← given]
    exact peek_eq_none_iff sound
  · intro later
    exact (sound_performAll sound later).2.position
  · intro c ahead
    exact position_lt_of_peek sound ahead

theorem run_into_hidden_text :
    let source := ['a', 'é', 'b', '\n', 'c']
    let reader := (ofScope source (some [⟨3, 5⟩, ⟨0, 1⟩])).run
      [.host (.evaluate (.singleton .automaticSemicolon)), .host .keep, .seek 2]
    reader.peek = some 'b' ∧ reader.position < reader.keep.position ∧
      reader.position < reader.skip.position := by
  intro source reader
  have ahead : reader.peek = some 'b' := by decide
  have kept := run_keeps_invariant source (some [⟨3, 5⟩, ⟨0, 1⟩])
    [.host (.evaluate (.singleton .automaticSemicolon)), .host .keep, .seek 2]
  obtain ⟨_, _, _, _, _, _, _, _, moves⟩ := kept
  exact ⟨ahead, moves 'b' ahead⟩

end SourceReader

end Terminator
