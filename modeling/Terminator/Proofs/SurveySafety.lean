import Terminator.Proofs.LinePlaces
import Terminator.Proofs.SurveySites

set_option autoImplicit false

namespace Terminator

theorem SourceReader.slice?_tokenSpan {reader : SourceReader} (sound : reader.Sound) :
    (reader.source.slice? reader.tokenSpan.start reader.tokenSpan.stop).isSome = true := by
  have span := isBoundary_tokenSpan sound
  rw [Text.slice?, if_pos ⟨span.1, span.2, Nat.min_le_right _ _⟩]
  rfl

namespace Survey

def step (survey : Survey) (lexeme : Lexeme) : Option Visit × Survey :=
  if lexeme.isTrivia || !survey.sees lexeme.stop then (none, survey)
  else
    let survey := survey.observe lexeme
    if survey.hasSite lexeme.stop then
      let asked := survey.ask lexeme.stop
      (some asked.1, asked.2)
    else (none, survey)

def behind (survey : Survey) (lexemes : List Lexeme) : Survey :=
  lexemes.foldl (fun survey lexeme => (survey.step lexeme).2) survey

variable {source : Text} {mode : SiteMode} {scope : Option (List Span)} {survey : Survey}

theorem walk_cons (survey : Survey) (lexeme : Lexeme) (rest : List Lexeme) :
    survey.walk (lexeme :: rest) =
      (survey.step lexeme).1.toList ++ (survey.step lexeme).2.walk rest := by
  simp only [walk, step]
  split
  · rfl
  · split
    · rfl
    · rfl

theorem walk_append (survey : Survey) (before rest : List Lexeme) :
    survey.walk (before ++ rest) = survey.walk before ++ (survey.behind before).walk rest := by
  induction before generalizing survey with
  | nil => rfl
  | cons lexeme before ih =>
    rw [List.cons_append, walk_cons, ih, walk_cons, List.append_assoc]
    rfl

theorem offset_ask (survey : Survey) (offset : Nat) : (survey.ask offset).1.offset = offset := by
  simp only [ask]
  split
  · rfl
  · rfl

theorem offset_step {lexeme : Lexeme} {visit : Visit}
    (visited : (survey.step lexeme).1 = some visit) : visit.offset = lexeme.stop := by
  simp only [step] at visited
  split at visited
  · cases visited
  · split at visited
    · cases visited
      exact offset_ask _ _
    · cases visited

theorem mem_walk {lexemes : List Lexeme} {visit : Visit} (member : visit ∈ survey.walk lexemes) :
    ∃ lexeme ∈ lexemes, visit.offset = lexeme.stop := by
  induction lexemes generalizing survey with
  | nil => cases member
  | cons lexeme rest ih =>
    rw [walk_cons] at member
    rcases List.mem_append.mp member with here | later
    · exact ⟨lexeme, List.mem_cons_self, offset_step (Option.mem_toList.mp here)⟩
    · obtain ⟨other, inRest, same⟩ := ih later
      exact ⟨other, List.mem_cons_of_mem _ inRest, same⟩

theorem standing_step (standing : Standing source mode scope survey) (lexeme : Lexeme) :
    Standing source mode scope (survey.step lexeme).2 := by
  simp only [step]
  split
  · exact standing
  · have observed := standing_observe standing lexeme
    split
    · exact standing_ask observed lexeme.stop
    · exact observed

theorem standing_behind (standing : Standing source mode scope survey) (lexemes : List Lexeme) :
    Standing source mode scope (survey.behind lexemes) := by
  induction lexemes generalizing survey with
  | nil => exact standing
  | cons lexeme rest ih => exact ih (standing_step standing lexeme)

end Survey

namespace Report

structure Located (source : Text) (insertion : Insertion) : Prop where
  offset : source.IsBoundary insertion.offset
  line : 1 ≤ insertion.place.line ∧ insertion.place.line ≤ source.lineStarts.length
  column : 1 ≤ insertion.place.column
  slices : ∃ start before line,
    source.lineStarts[insertion.place.line - 1]? = some start ∧
      source.slice? start insertion.offset = some before ∧
      insertion.place.column = before.length + 1 ∧
      source.line? insertion.place.line = some line ∧
      source.slice? start (start + line.byteLength) = some line ∧
      before.length ≤ line.length

theorem located_of_boundary {source : Text} {insertion : Insertion}
    (boundary : source.IsBoundary insertion.offset)
    (place : insertion.place = source.place insertion.offset) : Located source insertion := by
  obtain ⟨front, back, rfl, offset⟩ := Text.isBoundary_iff.mp boundary
  rw [← offset, Text.place_append] at place
  refine ⟨boundary, ?_, ?_, front.endedLines.byteLength, front.lastLine,
    front.lastLine ++ back.firstLine, ?_⟩
  · simp only [place, Text.length_lineStarts, List.countP_append]
    omega
  · rw [place]
    exact Nat.le_add_left 1 _
  · rw [place, ← offset]
    exact ⟨Text.getElem?_lineStarts front back, Text.slice?_lastLine front back, rfl,
      Text.line?_append front back, Text.slice?_line front back, by simp⟩

variable {source : Text} {mode : SiteMode} {scope : Option (List Span)} {insertion : Insertion}

theorem placed_of_mem (member : insertion ∈ (ofSource source mode scope).insertions) :
    source.IsBoundary insertion.offset ∧ insertion.place = source.place insertion.offset := by
  rw [insertions_ofSource] at member
  obtain ⟨lexeme, _, fresh⟩ := List.mem_filterMap.mp member
  obtain ⟨sound, sameSource, _⟩ :=
    Survey.sound_seek (@Survey.standing_start source mode scope) lexeme.stop
  have boundary := sound.position
  rw [sameSource] at boundary
  refine ⟨?_, Survey.place_of_freshInsertion fresh⟩
  rw [Survey.offset_of_freshInsertion fresh]
  exact boundary

theorem located_of_mem (member : insertion ∈ (ofSource source mode scope).insertions) :
    Located source insertion := by
  obtain ⟨boundary, place⟩ := placed_of_mem member
  exact located_of_boundary boundary place

-- The caret is in the line, which no line is too long for.
theorem context_of_located (located : Located source insertion) :
    ∃ text, context source insertion = .ok text := by
  obtain ⟨_, before, line, _, _, column, found, _, within⟩ := located.slices
  simp [context, found, column, Nat.not_lt.mpr within]

theorem render_of_located {insertions : List Insertion}
    (located : ∀ insertion ∈ insertions, Located source insertion) (withContext : Bool) :
    ∃ text, renderInsertions source withContext insertions = .ok text := by
  induction insertions with
  | nil => exact ⟨[], rfl⟩
  | cons insertion rest ih =>
    obtain ⟨here, others⟩ := List.forall_mem_cons.mp located
    obtain ⟨shown, context⟩ := context_of_located here
    obtain ⟨later, rendered⟩ := ih others
    cases withContext with
    | true => exact ⟨_, by simp only [renderInsertions, context, rendered]; rfl⟩
    | false => exact ⟨_, by simp only [renderInsertions, rendered]; rfl⟩

/-- A survey and the reports on it go only where the source is: every slice is between boundaries in
order, every line and every column exists, and what is found can be rendered. -/
theorem survey_within_source (source : Text) (mode : SiteMode) (scope : Option (List Span)) :
    (∀ lexeme ∈ Lexeme.ofText source,
        source.slice? lexeme.start lexeme.stop = some lexeme.text) ∧
      (∀ before lexeme after, Lexeme.ofText source = before ++ lexeme :: after →
        let survey := (Survey.start source mode scope).behind before
        Survey.visits source mode scope =
            (Survey.start source mode scope).walk before ++ survey.walk (lexeme :: after) ∧
          source.slice? lexeme.stop source.byteLength = some (source.dropBytes lexeme.stop) ∧
          ∀ calls,
            let reader := (survey.reader.seek lexeme.stop).performAll calls
            reader.source = source ∧
              source.slice? reader.position source.byteLength =
                some (source.dropBytes reader.position) ∧
              (source.slice? reader.tokenSpan.start reader.tokenSpan.stop).isSome = true ∧
              ∀ offset ∈ reader.marked, source.IsBoundary offset) ∧
      (∀ visit ∈ Survey.visits source mode scope, source.IsBoundary visit.offset) ∧
      source.lineStarts.Pairwise (· < ·) ∧
      (∀ insertion ∈ (ofSource source mode scope).insertions, Located source insertion) ∧
      ∀ withContext,
        ∃ text, (ofSource source mode scope).render source withContext = .ok text := by
  have located : ∀ insertion ∈ (ofSource source mode scope).insertions, Located source insertion :=
    fun insertion member => located_of_mem member
  refine ⟨fun lexeme member => Lexeme.slice?_span member, ?_, ?_, Text.pairwise_lineStarts source,
    located, render_of_located located⟩
  · intro before lexeme after split survey
    have member : lexeme ∈ Lexeme.ofText source := by simp [split]
    have standing := Survey.standing_behind (@Survey.standing_start source mode scope) before
    refine ⟨?_, Text.slice?_to_end (Lexeme.isBoundary_stop member), ?_⟩
    · rw [Survey.visits, split, Survey.walk_append]
    · intro calls reader
      obtain ⟨placed, placedSource, _⟩ := Survey.sound_seek standing lexeme.stop
      obtain ⟨sound, moved⟩ := SourceReader.sound_performAll placed calls
      have sameSource : reader.source = source := moved.source.trans placedSource
      rw [← sameSource]
      exact ⟨rfl, Text.slice?_to_end sound.position, SourceReader.slice?_tokenSpan sound,
        sound.marked⟩
  · intro visit member
    obtain ⟨lexeme, inSource, same⟩ := Survey.mem_walk member
    rw [same]
    exact Lexeme.isBoundary_stop inSource

theorem survey_within_cut_character :
    let source : Text := ['a', 'é', '\n', 'b']
    let scope := some [⟨5, 2⟩, ⟨0, 2⟩, ⟨4, 18446744073709551615⟩]
    let insertion : Insertion := { offset := 4, place := ⟨2, 1⟩, reason := .rangeBoundary }
    let reader := ((Survey.start source .tokenEnd scope).reader.seek 3).performAll
      [.evaluate (.singleton .automaticSemicolon)]
    Located source insertion ∧
      source.slice? reader.position source.byteLength = some (source.dropBytes reader.position) ∧
      reader.position = 4 ∧ source.IsBoundary 4 := by
  intro source scope insertion reader
  obtain ⟨_, sites, _, _, located, _⟩ := survey_within_source source .tokenEnd scope
  have lexemes : Lexeme.ofText source =
      [⟨.word, 0, ['a', 'é']⟩, ⟨.lineBreak, 3, ['\n']⟩, ⟨.word, 4, ['b']⟩] := by
    decide +kernel
  have found : insertion ∈ (ofSource source .tokenEnd scope).insertions := by decide +kernel
  have here : reader.position = 4 := by decide +kernel
  have marked : 4 ∈ reader.marked := by decide +kernel
  obtain ⟨_, _, calls⟩ := sites [] _ _ lexemes
  obtain ⟨_, sliced, _, boundary⟩ := calls [.evaluate (.singleton .automaticSemicolon)]
  exact ⟨located insertion found, sliced, here, boundary 4 marked⟩

end Report

end Terminator
