import Terminator.Proofs.LexemeOffsets
import Terminator.Proofs.ReaderRuns
import Terminator.Report

set_option autoImplicit false

namespace Terminator

/-- Whether a scope shows the end of something, which may be where a span ends. -/
def EndInScope : Option (List Span) → Nat → Prop
  | none, _ => True
  | some spans, offset => ∃ span ∈ spans, span.start < offset ∧ offset ≤ span.stop

instance (scope : Option (List Span)) : DecidablePred (EndInScope scope) :=
  match scope with
  | none => fun _ => .isTrue trivial
  | some spans => fun offset =>
    List.decidableBEx (fun span : Span => span.start < offset ∧ offset ≤ span.stop) spans

namespace SourceReader

theorem seek_congr {reader other : SourceReader} (source : reader.source = other.source)
    (scope : reader.scope = other.scope) (offset : Nat) : reader.seek offset = other.seek offset := by
  obtain ⟨_, _, _, _, _, _⟩ := reader
  obtain ⟨_, _, _, _, _, _⟩ := other
  obtain rfl : _ = _ := source
  obtain rfl : _ = _ := scope
  simp only [seek, placeAt]

theorem le_position_seek (reader : SourceReader) {offset : Nat}
    (cut : reader.source.IsBoundary offset) : offset ≤ (reader.seek offset).position := by
  rw [seek, Text.floorBoundary_eq_self cut]
  cases confined : reader.scope with
  | none => simp [placeAt, confined]
  | some spans =>
    rcases placeAt_cases confined offset with ⟨_, _, _, _, _, _, placed⟩ | ⟨_, placed⟩
    · rw [placed]
      exact Nat.le_max_left _ _
    · rw [placed]
      exact Text.le_byteLength_of_isBoundary cut

theorem position_seek_lt {reader : SourceReader} {offset later : Nat}
    (normal : NormalScope reader.source reader.scope) (seen : EndInScope reader.scope later)
    (less : offset < later) : (reader.seek offset).position < later := by
  have below := Nat.lt_of_le_of_lt (Text.floorBoundary_le reader.source offset) less
  rw [seek]
  cases confined : reader.scope with
  | none => simpa [placeAt, confined] using below
  | some spans =>
    have normal := normal spans confined
    rw [confined] at seen
    obtain ⟨span, member, after, before⟩ := seen
    rcases placeAt_cases confined (reader.source.floorBoundary offset) with
      ⟨front, first, back, rfl, early, reaches, placed⟩ | ⟨early, _⟩
    · rw [placed]
      refine Nat.max_lt.mpr ⟨below, ?_⟩
      rcases List.mem_append.mp member with inFront | inBack
      · have ended := early span inFront
        omega
      · exact Nat.lt_of_le_of_lt (normal.start_le_of_mem inBack) after
    · have ended := early span member
      omega

theorem marked_iterate_skip (reader : SourceReader) (count : Nat) :
    (Cursor.skip^[count] reader).marked = reader.marked := by
  refine Function.Iterate.rec (fun next : SourceReader => next.marked = reader.marked) rfl ?_ count
  intro next same
  show next.skip.marked = reader.marked
  cases ahead : next.peek with
  | none => simpa [skip, ahead] using same
  | some c =>
    simp only [skip, ahead, past]
    split
    · exact same
    · split
      · exact same
      · exact same

theorem marked_evaluate_of_wanted {reader : SourceReader} {accepted : TokenSet}
    (wanted : accepted.contains .automaticSemicolon = true) :
    (reader.evaluate accepted).2.marked = some reader.position := by
  obtain ⟨count, moved⟩ := evaluate_skips wanted reader
  rw [moved]
  exact marked_iterate_skip reader.mark count

theorem marked_evaluate {reader : SourceReader} {accepted : TokenSet}
    (inserts : (reader.evaluate accepted).1.isInsert = true) :
    (reader.evaluate accepted).2.marked = some reader.position := by
  cases wanted : accepted.contains .automaticSemicolon with
  | true => exact marked_evaluate_of_wanted wanted
  | false =>
    rw [evaluate_refused wanted] at inserts
    cases inserts

end SourceReader

namespace Survey

variable (source : Text) (mode : SiteMode) (scope : Option (List Span))

def isSite (lexeme : Lexeme) : Bool :=
  !lexeme.isTrivia && decide (EndInScope (scope.map (Span.visible source)) lexeme.stop) &&
    (decide (mode = .tokenEnd) || restOfLineIsBlank source lexeme.stop)

def isSignificant (lexeme : Lexeme) : Bool :=
  !lexeme.isTrivia && !lexeme.isComment &&
    decide (EndInScope (scope.map (Span.visible source)) lexeme.stop)

def canEndAfter (lexemes : List Lexeme) : Bool :=
  (lexemes.filter (isSignificant source scope)).getLast?.any Lexeme.canEndStatement

def freshInsertion (offset : Nat) : Option Insertion :=
  let reader := (SourceReader.ofScope source scope).seek offset
  let verdict := (reader.evaluate (.singleton .automaticSemicolon)).1
  if canEndAfter source scope ((Lexeme.ofText source).filter (·.stop ≤ offset)) && verdict.isInsert then
    some
      { offset := reader.position
        place := source.place reader.position
        reason := verdict.reason }
  else none

structure Standing (survey : Survey) : Prop where
  sameSource : survey.source = source
  sameSites : survey.sites = mode
  readerSource : survey.reader.source = source
  readerScope : survey.reader.scope = scope.map (Span.visible source)

variable {source mode scope}

theorem standing_start : Standing source mode scope (start source mode scope) := by
  obtain ⟨sameSource, sameScope⟩ := SourceReader.ofScope_source source scope
  exact ⟨rfl, rfl, sameSource, sameScope⟩

theorem sees_eq {survey : Survey} (standing : Standing source mode scope survey) (offset : Nat) :
    survey.sees offset = decide (EndInScope (scope.map (Span.visible source)) offset) := by
  rw [sees, SourceReader.isConfined, SourceReader.spans, standing.readerScope, Bool.eq_iff_iff,
    decide_eq_true_iff]
  cases scope with
  | none => simp [EndInScope]
  | some spans => simp [EndInScope]

theorem hasSite_eq {survey : Survey} (standing : Standing source mode scope survey) (offset : Nat) :
    survey.hasSite offset = (decide (mode = .tokenEnd) || restOfLineIsBlank source offset) := by
  rw [hasSite, standing.sameSites, standing.sameSource]
  cases mode <;> rfl

theorem standing_observe {survey : Survey} (standing : Standing source mode scope survey)
    (lexeme : Lexeme) : Standing source mode scope (survey.observe lexeme) := by
  unfold observe
  split
  · exact standing
  · exact ⟨standing.sameSource, standing.sameSites, standing.readerSource, standing.readerScope⟩

theorem canEndAfter_append (before : List Lexeme) (lexeme : Lexeme) :
    canEndAfter source scope (before ++ [lexeme]) =
      if isSignificant source scope lexeme then lexeme.canEndStatement
      else canEndAfter source scope before := by
  by_cases counts : isSignificant source scope lexeme = true
  · simp [canEndAfter, List.filter_append, counts]
  · simp [canEndAfter, List.filter_append, counts]

theorem ask_of_inserts {survey : Survey} {offset : Nat}
    (inserts : ((survey.reader.seek offset).evaluate survey.accepted).1.isInsert = true)
    (new : survey.lastInsertion ≠ some (survey.reader.seek offset).position) :
    let placed := survey.reader.seek offset
    let answer := placed.evaluate survey.accepted
    let insertion : Insertion :=
      { offset := placed.position
        place := survey.source.place placed.position
        reason := answer.1.reason }
    survey.ask offset =
      ({ offset, verdict := answer.1, insertion := some insertion },
        { survey with reader := answer.2, lastInsertion := some placed.position }) := by
  have marked := SourceReader.marked_evaluate inserts
  simp [ask, inserts, marked, new]

theorem ask_of_rejects {survey : Survey} {offset : Nat}
    (rejects : ((survey.reader.seek offset).evaluate survey.accepted).1.isInsert = false) :
    let answer := (survey.reader.seek offset).evaluate survey.accepted
    survey.ask offset =
      ({ offset, verdict := answer.1, insertion := none }, { survey with reader := answer.2 }) := by
  simp [ask, rejects]

theorem accepted_of_canEnd {survey : Survey} (can : survey.statementCanEnd = true) :
    survey.accepted = .singleton .automaticSemicolon := by
  rw [accepted, if_pos can]

theorem canEnd_of_inserts {survey : Survey} {reader : SourceReader}
    (inserts : (reader.evaluate survey.accepted).1.isInsert = true) :
    survey.statementCanEnd = true := by
  by_contra cannot
  have refused : survey.accepted.contains .automaticSemicolon = false := by
    rw [accepted, if_neg cannot]
    rfl
  rw [SourceReader.evaluate, evaluate_of_refused refused] at inserts
  cases inserts

theorem seek_eq {survey : Survey} (standing : Standing source mode scope survey) (offset : Nat) :
    survey.reader.seek offset = (SourceReader.ofScope source scope).seek offset := by
  obtain ⟨sameSource, sameScope⟩ := SourceReader.ofScope_source source scope
  exact SourceReader.seek_congr (standing.readerSource.trans sameSource.symm)
    (standing.readerScope.trans sameScope.symm) offset

theorem sound_seek {survey : Survey} (standing : Standing source mode scope survey)
    (offset : Nat) :
    (survey.reader.seek offset).Sound ∧ (survey.reader.seek offset).source = source ∧
      (survey.reader.seek offset).scope = scope.map (Span.visible source) := by
  have sound := SourceReader.sound_seek (SourceReader.sound_ofScope source scope) offset
  obtain ⟨sameSource, sameScope⟩ :=
    SourceReader.placeAt_source survey.reader (survey.reader.source.floorBoundary offset)
  rw [← seek_eq standing] at sound
  exact ⟨sound, sameSource.trans standing.readerSource, sameScope.trans standing.readerScope⟩

theorem standing_ask {survey : Survey} (standing : Standing source mode scope survey)
    (offset : Nat) : Standing source mode scope (survey.ask offset).2 := by
  obtain ⟨sound, placedSource, placedScope⟩ := sound_seek standing offset
  have moved := (SourceReader.sound_evaluate sound survey.accepted).2
  have readerSource := moved.source.trans placedSource
  have readerScope := moved.scope.trans placedScope
  simp only [ask]
  split
  · exact ⟨standing.sameSource, standing.sameSites, readerSource, readerScope⟩
  · exact ⟨standing.sameSource, standing.sameSites, readerSource, readerScope⟩

theorem ask_eq_fresh {survey : Survey} {offset : Nat} (standing : Standing source mode scope survey)
    (statement : survey.statementCanEnd =
      canEndAfter source scope ((Lexeme.ofText source).filter (·.stop ≤ offset)))
    (unreported : ∀ goal ∈ survey.lastInsertion,
      goal < ((SourceReader.ofScope source scope).seek offset).position) :
    (survey.ask offset).1.insertion = freshInsertion source scope offset ∧
      Standing source mode scope (survey.ask offset).2 ∧
      (survey.ask offset).2.statementCanEnd = survey.statementCanEnd ∧
      ∀ goal ∈ (survey.ask offset).2.lastInsertion,
        goal ≤ ((SourceReader.ofScope source scope).seek offset).position := by
  have later := standing_ask standing offset
  rw [← seek_eq standing] at unreported ⊢
  rw [freshInsertion, ← seek_eq standing, ← statement]
  cases inserts : ((survey.reader.seek offset).evaluate survey.accepted).1.isInsert with
  | true =>
    have can := canEnd_of_inserts inserts
    have new : survey.lastInsertion ≠ some (survey.reader.seek offset).position := by
      intro same
      exact absurd (unreported _ same) (Nat.lt_irrefl _)
    rw [ask_of_inserts inserts new] at later ⊢
    rw [accepted_of_canEnd can] at inserts later ⊢
    refine ⟨?_, later, rfl, ?_⟩
    · simp [can, inserts, standing.sameSource]
    · rintro goal ⟨⟩
      exact Nat.le_refl _
  | false =>
    rw [ask_of_rejects inserts] at later ⊢
    refine ⟨?_, later, rfl, fun goal reported => Nat.le_of_lt (unreported goal reported)⟩
    cases can : survey.statementCanEnd with
    | true =>
      rw [accepted_of_canEnd can] at inserts
      simp [inserts]
    | false => rfl

theorem stop_lt_of_split {before rest : List Lexeme} {lexeme later : Lexeme}
    (whole : Lexeme.ofText source = before ++ lexeme :: rest) (member : later ∈ rest) :
    lexeme.stop < later.stop := by
  have ordered := Lexeme.pairwise_stop_lt source
  rw [whole, List.pairwise_append] at ordered
  exact List.rel_of_pairwise_cons ordered.2.1 member

theorem filter_stop_le {before rest : List Lexeme} {lexeme : Lexeme}
    (whole : Lexeme.ofText source = before ++ lexeme :: rest) :
    (Lexeme.ofText source).filter (·.stop ≤ lexeme.stop) = before ++ [lexeme] := by
  have ordered := Lexeme.pairwise_stop_lt source
  rw [whole, List.pairwise_append] at ordered
  obtain ⟨_, _, across⟩ := ordered
  have early : before.filter (·.stop ≤ lexeme.stop) = before := by
    apply List.filter_eq_self.mpr
    intro earlier member
    apply decide_eq_true
    exact Nat.le_of_lt (across earlier member lexeme (by simp))
  have late : rest.filter (·.stop ≤ lexeme.stop) = [] := by
    apply List.filter_eq_nil_iff.mpr
    intro later member
    have less := stop_lt_of_split whole member
    simp only [decide_eq_true_eq]
    omega
  simp [whole, early, late]

theorem observe_lastInsertion (survey : Survey) (lexeme : Lexeme) :
    (survey.observe lexeme).lastInsertion = survey.lastInsertion := by
  unfold observe
  split <;> rfl

theorem canEnd_observe {survey : Survey} {before : List Lexeme} {lexeme : Lexeme}
    (statement : survey.statementCanEnd = canEndAfter source scope before)
    (solid : lexeme.isTrivia = false)
    (seen : EndInScope (scope.map (Span.visible source)) lexeme.stop) :
    (survey.observe lexeme).statementCanEnd = canEndAfter source scope (before ++ [lexeme]) := by
  rw [canEndAfter_append, isSignificant, solid, decide_eq_true seen, observe]
  by_cases comment : lexeme.isComment = true
  · simpa [comment] using statement
  · simp [comment]

-- Between two ends that are seen a reader always has something to move over.
theorem position_lt_of_stop_lt {offset later : Nat} (cut : source.IsBoundary later)
    (seen : EndInScope (scope.map (Span.visible source)) later) (less : offset < later) :
    ((SourceReader.ofScope source scope).seek offset).position <
      ((SourceReader.ofScope source scope).seek later).position := by
  obtain ⟨sameSource, sameScope⟩ := SourceReader.ofScope_source source scope
  have normal := SourceReader.normalScope_of_sound (SourceReader.sound_ofScope source scope)
  rw [← sameSource] at cut
  rw [← sameScope] at seen
  exact Nat.lt_of_lt_of_le (SourceReader.position_seek_lt normal seen less)
    (SourceReader.le_position_seek _ cut)

theorem offset_of_freshInsertion {offset : Nat} {insertion : Insertion}
    (found : freshInsertion source scope offset = some insertion) :
    insertion.offset = ((SourceReader.ofScope source scope).seek offset).position := by
  simp only [freshInsertion, Option.ite_none_right_eq_some, Option.some.injEq] at found
  obtain ⟨_, rfl⟩ := found
  rfl

theorem place_of_freshInsertion {offset : Nat} {insertion : Insertion}
    (found : freshInsertion source scope offset = some insertion) :
    insertion.place = source.place insertion.offset := by
  simp only [freshInsertion, Option.ite_none_right_eq_some, Option.some.injEq] at found
  obtain ⟨_, rfl⟩ := found
  rfl

theorem verdict_of_freshInsertion {offset : Nat} {insertion : Insertion}
    (found : freshInsertion source scope offset = some insertion) :
    let reader := (SourceReader.ofScope source scope).seek offset
    let verdict := (reader.evaluate (.singleton .automaticSemicolon)).1
    verdict.isInsert = true ∧ insertion.reason = verdict.reason := by
  simp only [freshInsertion, Option.ite_none_right_eq_some, Option.some.injEq,
    Bool.and_eq_true] at found
  obtain ⟨⟨_, inserts⟩, rfl⟩ := found
  exact ⟨inserts, rfl⟩

theorem endInScope_of_isSite {lexeme : Lexeme} (site : isSite source mode scope lexeme = true) :
    EndInScope (scope.map (Span.visible source)) lexeme.stop := by
  simp only [isSite, Bool.and_eq_true, decide_eq_true_eq] at site
  exact site.1.2

theorem isSignificant_of_passed {lexeme : Lexeme} (passed : lexeme.isTrivia = true ∨
    ¬ EndInScope (scope.map (Span.visible source)) lexeme.stop) :
    isSignificant source scope lexeme = false := by
  rcases passed with trivia | unseen
  · simp [isSignificant, trivia]
  · simp [isSignificant, unseen]

theorem isSite_of_passed {lexeme : Lexeme} (passed : lexeme.isTrivia = true ∨
    ¬ EndInScope (scope.map (Span.visible source)) lexeme.stop) :
    isSite source mode scope lexeme = false := by
  rcases passed with trivia | unseen
  · simp [isSite, trivia]
  · simp [isSite, unseen]

-- The induction is on the tokens to come. What has been walked over is told by whether a statement
-- can end there, and every insertion found so far lies before where the reader is placed next.
theorem walk_eq_fresh {survey : Survey} {before rest : List Lexeme}
    (standing : Standing source mode scope survey)
    (whole : Lexeme.ofText source = before ++ rest)
    (statement : survey.statementCanEnd = canEndAfter source scope before)
    (unreported : ∀ goal ∈ survey.lastInsertion, ∀ lexeme ∈ rest,
      EndInScope (scope.map (Span.visible source)) lexeme.stop →
        goal < ((SourceReader.ofScope source scope).seek lexeme.stop).position) :
    (survey.walk rest).map (·.insertion) =
      (rest.filter (isSite source mode scope)).map fun lexeme =>
        freshInsertion source scope lexeme.stop := by
  induction rest generalizing survey before with
  | nil => rfl
  | cons lexeme rest ih =>
    have whole' : Lexeme.ofText source = (before ++ [lexeme]) ++ rest := by simp [whole]
    have later : ∀ goal ∈ survey.lastInsertion, ∀ other ∈ rest,
        EndInScope (scope.map (Span.visible source)) other.stop →
          goal < ((SourceReader.ofScope source scope).seek other.stop).position :=
      fun goal reported other inRest => unreported goal reported other (List.mem_cons_of_mem _ inRest)
    rw [walk, sees_eq standing, List.filter_cons]
    by_cases passed : lexeme.isTrivia = true ∨
        ¬ EndInScope (scope.map (Span.visible source)) lexeme.stop
    · rw [if_pos (by simpa using passed), isSite_of_passed passed]
      apply ih standing whole' _ later
      rw [canEndAfter_append, isSignificant_of_passed passed]
      exact statement
    · obtain ⟨solid, seen⟩ := not_or.mp passed
      rw [Bool.not_eq_true] at solid
      rw [Decidable.not_not] at seen
      have observed := standing_observe standing lexeme
      have statement := canEnd_observe statement solid seen
      rw [← observe_lastInsertion survey lexeme] at later unreported
      rw [if_neg (by simpa using passed)]
      simp only [hasSite_eq observed]
      by_cases site : (decide (mode = .tokenEnd) || restOfLineIsBlank source lexeme.stop) = true
      · have isSite : isSite source mode scope lexeme = true := by simp [isSite, solid, seen, site]
        obtain ⟨found, standing', same, bounded⟩ := ask_eq_fresh observed
          (by rw [statement, filter_stop_le whole])
          (fun goal reported => unreported goal reported lexeme (by simp) seen)
        rw [if_pos site, isSite, if_pos rfl, List.map_cons, List.map_cons, found]
        apply congrArg
        apply ih standing' whole' (same.trans statement)
        intro goal reported other inRest seen'
        have cut := Lexeme.isBoundary_stop (show other ∈ Lexeme.ofText source by simp [whole, inRest])
        exact Nat.lt_of_le_of_lt (bounded goal reported)
          (position_lt_of_stop_lt cut seen' (stop_lt_of_split whole inRest))
      · have noSite : Survey.isSite source mode scope lexeme = false := by
          simpa [Survey.isSite, solid, seen] using site
        rw [if_neg site, noSite]
        exact ih observed whole' statement later

end Survey

namespace Report

variable (source : Text) (mode : SiteMode) (scope : Option (List Span))

def sites : List Lexeme :=
  (Lexeme.ofText source).filter (Survey.isSite source mode scope)

theorem map_insertion_visits :
    (Survey.visits source mode scope).map (·.insertion) =
      (sites source mode scope).map fun lexeme => Survey.freshInsertion source scope lexeme.stop :=
  @Survey.walk_eq_fresh source mode scope _ [] _ Survey.standing_start rfl rfl (by rintro goal ⟨⟩)

theorem sitesChecked_ofSource :
    (ofSource source mode scope).sitesChecked = (sites source mode scope).length := by
  have found := congrArg List.length (map_insertion_visits source mode scope)
  rwa [List.length_map, List.length_map] at found

theorem insertions_ofSource :
    (ofSource source mode scope).insertions =
      (sites source mode scope).filterMap fun lexeme =>
        Survey.freshInsertion source scope lexeme.stop := by
  have found := congrArg (List.filterMap id) (map_insertion_visits source mode scope)
  rwa [List.filterMap_map, List.filterMap_map] at found

/-- A report is what new readers find, one at each site, and its offsets are in order. -/
theorem ofSource_eq_fresh :
    Report.ofSource source mode scope =
        { sitesChecked := (sites source mode scope).length
          insertions := (sites source mode scope).filterMap fun lexeme =>
            Survey.freshInsertion source scope lexeme.stop } ∧
      ((Report.ofSource source mode scope).insertions.map (·.offset)).Pairwise (· < ·) := by
  refine ⟨?_, ?_⟩
  · rw [← sitesChecked_ofSource, ← insertions_ofSource]
  rw [insertions_ofSource, List.pairwise_map, List.pairwise_filterMap]
  refine ((Lexeme.pairwise_stop_lt source).filter _).imp_of_mem
    fun {first later} _ inSites less insertion here insertion' there => ?_
  obtain ⟨member, site⟩ := List.mem_filter.mp inSites
  rw [Survey.offset_of_freshInsertion here, Survey.offset_of_freshInsertion there]
  exact Survey.position_lt_of_stop_lt (Lexeme.isBoundary_stop member)
    (Survey.endInScope_of_isSite site) less

end Report

end Terminator
