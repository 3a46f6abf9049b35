import Terminator.Proofs.HostProtocol
import Terminator.Proofs.SurveySites

set_option autoImplicit false

namespace Terminator

/-- Spans that show all of a source. A source without text needs none. -/
structure Span.Complete (source : Text) (spans : List Span) : Prop where
  bounds : ∀ span ∈ spans, span.start = 0 ∧ span.stop = source.byteLength
  nothing : spans = [] → source.byteLength = 0

theorem Span.complete_visible {source : Text} {spans : List Span}
    (covers : source = [] ∨ visible source spans = [⟨0, source.byteLength⟩]) :
    Complete source (visible source spans) := by
  rcases covers with rfl | whole
  · have none : visible [] spans = [] := by
      apply List.eq_nil_iff_forall_not_mem.mpr
      intro span member
      have wellCut := (normal_visible [] spans).wellCut span member
      have inside := Text.le_byteLength_of_isBoundary wellCut.stop
      have nonempty := wellCut.nonempty
      rw [Text.byteLength_nil] at inside
      omega
    rw [none]
    exact ⟨by simp, fun _ => rfl⟩
  · rw [whole]
    exact ⟨by simp, by simp⟩

namespace SourceReader

theorem peek_eq_charAt {reader : SourceReader} (sound : reader.Sound) :
    reader.peek = reader.source.charAt reader.position := by
  cases confined : reader.scope with
  | none => simp [peek, span?_whole confined]
  | some spans =>
    rcases (sound.confined spans confined).2 with ⟨span, found, _, before⟩ | ⟨ended, _⟩
    · simp [peek, span?_eq confined, found, before]
    · simp [peek, span?_eq confined, ended]

structure SeesAll (reader : SourceReader) : Prop where
  sound : reader.Sound
  complete : ∀ spans, reader.scope = some spans → Span.Complete reader.source spans

def unconfined (reader : SourceReader) : SourceReader :=
  { reader with scope := none, current := 0 }

variable {reader next : SourceReader}

theorem SeesAll.of_sound (all : reader.SeesAll) (sound : next.Sound)
    (source : next.source = reader.source) (scope : next.scope = reader.scope) : next.SeesAll where
  sound := sound
  complete spans confined := by
    rw [source]
    exact all.complete spans (scope ▸ confined)

theorem SeesAll.of_advances (all : reader.SeesAll) (sound : next.Sound)
    (advances : reader.Advances next) : next.SeesAll :=
  all.of_sound sound advances.source advances.scope

theorem peek_unconfined (all : reader.SeesAll) : reader.unconfined.peek = reader.peek := by
  rw [peek_eq_charAt all.sound]
  rfl

-- A span other than the first would begin behind one that ends with the source.
theorem atRangeStart_eq_false (all : reader.SeesAll) : reader.atRangeStart = false := by
  cases confined : reader.scope with
  | none => simp [atRangeStart, span?_whole confined]
  | some spans =>
    have bounds := (all.complete spans confined).bounds
    by_contra starts
    simp only [atRangeStart, span?_eq confined, Bool.not_eq_false, Bool.and_eq_true,
      decide_eq_true_eq, Option.any_eq_true] at starts
    obtain ⟨positive, span, found, _⟩ := starts
    have inside := (List.getElem?_eq_some_iff.mp found).1
    have apart := (all.sound.confined spans confined).1.stop_lt_start
      (List.getElem?_eq_getElem (Nat.zero_lt_of_lt inside)) found positive
    have start := (bounds span (List.mem_of_getElem? found)).1
    omega

theorem past_unconfined {c : Char} (all : reader.SeesAll) (ahead : reader.peek = some c) :
    (reader.past c).unconfined = reader.unconfined.past c := by
  have free : reader.unconfined.past c =
      { reader.unconfined with position := reader.position + c.utf8Size } := by
    simp [past, span?_whole, unconfined]
  rw [free]
  rcases past_cases all.sound ahead with
    ⟨whole, moved⟩ | ⟨spans, span, confined, found, after, before, moved⟩ |
    ⟨spans, span, confined, found, after, ends, moved⟩
  · rw [moved]
    rfl
  · rw [moved]
    rfl
  · -- There is nothing to jump over, since the span that ends here ends with the source.
    have normal := (all.sound.confined spans confined).1
    have stop := ((all.complete spans confined).bounds span (List.mem_of_getElem? found)).2
    have jump := stop_le_startOf normal found
    have inside := Text.le_byteLength_of_isBoundary
      (isBoundary_startOf normal (reader.current + 1))
    have same : startOf reader.source spans (reader.current + 1) =
        reader.position + c.utf8Size := by omega
    rw [moved, same]
    rfl

theorem keep_unconfined (all : reader.SeesAll) :
    reader.keep.unconfined = reader.unconfined.keep := by
  cases ahead : reader.peek with
  | none => simp [keep, peek_unconfined all, ahead]
  | some c => simp [keep, peek_unconfined all, ahead, past_unconfined all ahead]

theorem skip_unconfined (all : reader.SeesAll) :
    reader.skip.unconfined = reader.unconfined.skip := by
  cases ahead : reader.peek with
  | none => simp [skip, peek_unconfined all, ahead]
  | some c =>
    simp only [skip, peek_unconfined all, ahead, ← past_unconfined all ahead]
    rfl

theorem placeAt_unconfined
    (complete : ∀ spans, reader.scope = some spans → Span.Complete reader.source spans)
    {offset : Nat} (inside : offset ≤ reader.source.byteLength) :
    (reader.placeAt offset).unconfined = reader.unconfined.placeAt offset := by
  have free : reader.unconfined.placeAt offset =
      { reader.unconfined with position := offset, tokenStart := offset, marked := none } := rfl
  rw [free]
  cases confined : reader.scope with
  | none =>
    simp only [placeAt, confined]
    rfl
  | some spans =>
    have complete := complete spans confined
    rcases placeAt_cases confined offset with
      ⟨before, span, after, rfl, _, _, placed⟩ | ⟨early, placed⟩
    · have start := (complete.bounds span (by simp)).1
      rw [placed, start, Nat.max_eq_left (Nat.zero_le offset)]
      rfl
    · have ended : reader.source.byteLength = offset := by
        cases spans with
        | nil =>
          have nothing := complete.nothing rfl
          omega
        | cons span rest =>
          have reached := early span (by simp)
          have stop := (complete.bounds span (by simp)).2
          omega
      rw [placed, ended]
      rfl

theorem seek_unconfined (all : reader.SeesAll) (offset : Nat) :
    (reader.seek offset).unconfined = reader.unconfined.seek offset :=
  placeAt_unconfined all.complete
    (Text.le_byteLength_of_isBoundary (Text.isBoundary_floorBoundary reader.source offset))

theorem simulation_unconfined :
    Cursor.Simulation fun reader other : SourceReader =>
      reader.SeesAll ∧ other = reader.unconfined where
  peek reader other here := by
    obtain ⟨all, rfl⟩ := here
    exact (peek_unconfined all).symm
  atRangeStart reader other here := by
    obtain ⟨all, rfl⟩ := here
    exact atRangeStart_eq_false all
  skip reader other here := by
    obtain ⟨all, rfl⟩ := here
    exact ⟨all.of_advances (sound_skip all.sound) (advances_skip all.sound),
      (skip_unconfined all).symm⟩

theorem evaluate_unconfined (all : reader.SeesAll) (accepted : TokenSet) :
    (reader.evaluate accepted).1 = (reader.unconfined.evaluate accepted).1 ∧
      (reader.evaluate accepted).2.unconfined = (reader.unconfined.evaluate accepted).2 := by
  cases wanted : accepted.contains .automaticSemicolon with
  | true =>
    have marked : reader.mark.SeesAll := all.of_sound (sound_mark all.sound) rfl rfl
    obtain ⟨verdict, _, moved⟩ := simulation_unconfined.related_evaluate wanted ⟨marked, rfl⟩
      (blankRunWithin reader.mark) (blankRunWithin reader.unconfined.mark)
    exact ⟨verdict, moved.symm⟩
  | false =>
    rw [evaluate, evaluate, evaluate_of_refused wanted, evaluate_of_refused wanted]
    exact ⟨rfl, rfl⟩

theorem respond_unconfined (all : reader.SeesAll) (call : ReaderCall) :
    (reader.respond call).unconfined = reader.unconfined.respond call := by
  cases call with
  | seek offset => exact seek_unconfined all offset
  | host call =>
    cases call with
    | keep => exact keep_unconfined all
    | skip => exact skip_unconfined all
    | mark => rfl
    | evaluate accepted => exact (evaluate_unconfined all accepted).2
    | decide accepted => exact (evaluate_unconfined all accepted).2

theorem run_unconfined (all : reader.SeesAll) (calls : List ReaderCall) :
    (reader.run calls).SeesAll ∧ (reader.run calls).unconfined = reader.unconfined.run calls := by
  induction calls generalizing reader with
  | nil => exact ⟨all, rfl⟩
  | cons call rest ih =>
    obtain ⟨sound, source, scope⟩ := sound_respond all.sound call
    have later := ih (all.of_sound sound source scope)
    rw [respond_unconfined all call] at later
    exact later

variable {source : Text} {spans : List Span}

theorem seesAll_confined (complete : Span.Complete source (Span.visible source spans)) :
    (confined source spans).SeesAll where
  sound := sound_ofScope source (some spans)
  complete visible shown := by
    obtain ⟨given, scope⟩ := ofScope_source source (some spans)
    obtain rfl : Span.visible source spans = visible := Option.some.inj (scope.symm.trans shown)
    exact given.symm ▸ complete

theorem confined_unconfined (complete : Span.Complete source (Span.visible source spans)) :
    (confined source spans).unconfined = whole source := by
  have first : startOf source (Span.visible source spans) 0 = 0 := by
    unfold startOf
    split
    next span found => exact (complete.bounds span (List.mem_of_getElem? found)).1
    next found => exact complete.nothing (by simpa using found)
  rw [confined, first]
  apply placeAt_unconfined
  · intro visible shown
    obtain rfl : Span.visible source spans = visible := Option.some.inj shown
    exact complete
  · exact Nat.zero_le _

end SourceReader

namespace Survey

variable {source : Text} {spans : List Span} {lexeme : Lexeme}

theorem endInScope_of_complete (complete : Span.Complete source (Span.visible source spans))
    (member : lexeme ∈ Lexeme.ofText source) :
    EndInScope (some (Span.visible source spans)) lexeme.stop := by
  have wide := Lexeme.start_lt_stop member
  have inside := Text.le_byteLength_of_isBoundary (Lexeme.isBoundary_stop member)
  cases visible : Span.visible source spans with
  | nil =>
    have nothing := complete.nothing visible
    omega
  | cons span rest =>
    have bounds := complete.bounds span (by simp [visible])
    exact ⟨span, by simp, by omega, by omega⟩

theorem canEndAfter_of_complete (complete : Span.Complete source (Span.visible source spans))
    {lexemes : List Lexeme} (inside : lexemes ⊆ Lexeme.ofText source) :
    canEndAfter source (some spans) lexemes = canEndAfter source none lexemes := by
  have same : lexemes.filter (isSignificant source (some spans)) =
      lexemes.filter (isSignificant source none) := by
    apply List.filter_congr
    intro lexeme member
    have seen := endInScope_of_complete complete (inside member)
    have free : EndInScope none lexeme.stop := trivial
    simp [isSignificant, seen, free]
  rw [canEndAfter, canEndAfter, same]

theorem freshInsertion_of_complete (complete : Span.Complete source (Span.visible source spans))
    (offset : Nat) :
    freshInsertion source (some spans) offset = freshInsertion source none offset := by
  obtain ⟨all, placed⟩ :=
    SourceReader.run_unconfined (SourceReader.seesAll_confined complete) [.seek offset]
  rw [SourceReader.confined_unconfined complete] at placed
  have verdict := (SourceReader.evaluate_unconfined all (.singleton .automaticSemicolon)).1
  have position := congrArg SourceReader.position placed
  have before := canEndAfter_of_complete complete
    (List.filter_subset_self (p := fun lexeme => decide (lexeme.stop ≤ offset)) _)
  rw [placed] at verdict
  simp only [SourceReader.run, List.foldl_cons, List.foldl_nil, SourceReader.respond,
    SourceReader.unconfined] at verdict position
  simp only [freshInsertion, SourceReader.ofScope, before, verdict, position]
  rfl

end Survey

theorem Report.ofSource_of_complete {source : Text} {spans : List Span}
    (complete : Span.Complete source (Span.visible source spans)) (mode : SiteMode) :
    ofSource source mode (some spans) = ofSource source mode none := by
  have parts (scope : Option (List Span)) : ofSource source mode scope =
      { sitesChecked := (sites source mode scope).length
        insertions := (sites source mode scope).filterMap fun lexeme =>
          Survey.freshInsertion source scope lexeme.stop } := by
    rw [← sitesChecked_ofSource, ← insertions_ofSource]
  have same : sites source mode (some spans) = sites source mode none := by
    apply List.filter_congr
    intro lexeme member
    have seen := Survey.endInScope_of_complete complete member
    have free : EndInScope none lexeme.stop := trivial
    simp [Survey.isSite, seen, free]
  rw [parts, parts, same]
  simp only [Survey.freshInsertion_of_complete complete]

namespace SourceReader

/-- A reader whose spans show all of the source answers every call as a reader of the whole source
does, and a survey with such spans reports the same. -/
theorem confined_to_whole (source : Text) (spans : List Span) (calls : List ReaderCall)
    (covers : source = [] ∨ Span.visible source spans = [⟨0, source.byteLength⟩]) :
    let reader := (confined source spans).run calls
    let free := (whole source).run calls
    reader.position = free.position ∧ reader.peek = free.peek ∧ reader.marked = free.marked ∧
      reader.tokenSpan = free.tokenSpan ∧
      reader.atRangeStart = false ∧ free.atRangeStart = false ∧
      (∀ accepted, (reader.evaluate accepted).1 = (free.evaluate accepted).1 ∧
        (Scanner.create.scan accepted reader).1 = (Scanner.create.scan accepted free).1) ∧
      ∀ mode, Report.ofSource source mode (some spans) = Report.ofSource source mode none := by
  intro reader free
  have complete := Span.complete_visible covers
  obtain ⟨all, same⟩ := run_unconfined (seesAll_confined complete) calls
  rw [confined_unconfined complete] at same
  have same : reader.unconfined = free := same
  have unstarted : free.atRangeStart = false := by
    rw [← same]
    simp [atRangeStart, unconfined]
  have verdict (accepted : TokenSet) :
      (reader.evaluate accepted).1 = (free.evaluate accepted).1 := by
    rw [(evaluate_unconfined all accepted).1, same]
  have place := congrArg position same
  have mark := congrArg marked same
  have token := congrArg tokenSpan same
  refine ⟨place, ?_, mark, token, atRangeStart_eq_false all, unstarted,
    fun accepted => ⟨verdict accepted, ?_⟩, Report.ofSource_of_complete complete⟩
  · rw [← peek_unconfined all, same]
  · exact congrArg Verdict.isInsert (verdict accepted)

theorem two_halves_show_everything :
    let source : Text := ['é', '\n', 'b']
    let spans : List Span := [⟨2, 9⟩, ⟨0, 1⟩, ⟨3, 3⟩]
    let calls : List ReaderCall := [.seek 2, .host (.evaluate (.singleton .automaticSemicolon)),
      .host .keep]
    Span.visible source spans = [⟨0, source.byteLength⟩] ∧
      ((confined source spans).run calls).tokenSpan = ((whole source).run calls).tokenSpan ∧
      (confined source spans).run calls ≠ (whole source).run calls := by
  intro source spans calls
  have shown : Span.visible source spans = [⟨0, source.byteLength⟩] := by decide
  have same := confined_to_whole source spans calls (.inr shown)
  exact ⟨shown, same.2.2.2.1, by decide⟩

end SourceReader

end Terminator
