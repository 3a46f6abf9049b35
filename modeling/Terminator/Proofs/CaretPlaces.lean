import Mathlib.Data.Prod.Lex
import Mathlib.Order.Monotone.Basic
import Terminator.Proofs.SurveySafety

set_option autoImplicit false

namespace Terminator

def Place.key (place : Place) : Nat ×ₗ Nat :=
  toLex (place.line, place.column)

namespace Text

variable {text : Text} {offset : Nat} (front back : Text)

theorem lastLine_append_of_unbroken {middle : Text}
    (unbroken : ∀ c ∈ middle, isLineBreak c = false) :
    (front ++ middle).lastLine = front.lastLine ++ middle := by
  have passed : ∀ c ∈ middle.reverse, (!isLineBreak c) = true := by
    intro c member
    simp [unbroken c (List.mem_reverse.mp member)]
  rw [lastLine, lastLine, List.rtakeWhile, List.rtakeWhile, List.reverse_append,
    List.takeWhile_append_of_pos passed, List.reverse_append, List.reverse_reverse]

theorem place_of_isBoundary (boundary : text.IsBoundary offset) : text.place offset =
    { line := (text.takeBytes offset).countP isLineBreak + 1
      column := (text.takeBytes offset).lastLine.length + 1 } := by
  obtain ⟨front, back, rfl, rfl⟩ := isBoundary_iff.mp boundary
  rw [place_append, takeBytes_byteLength]

-- From a boundary to a later one there is a line break, or else more of the same line.
theorem strictMonoOn_key_place (text : Text) :
    StrictMonoOn (fun offset => (text.place offset).key) {offset | text.IsBoundary offset} := by
  intro offset boundary later boundary' less
  obtain ⟨front, rest, rfl, rfl⟩ := isBoundary_iff.mp boundary
  obtain ⟨more, rfl⟩ := Nat.exists_eq_add_of_le (Nat.le_of_lt less)
  obtain ⟨middle, back, rfl, rfl⟩ :=
    isBoundary_iff.mp ((isBoundary_append front rest more).mp boundary')
  have nonempty : 0 < middle.length := by
    apply List.length_pos_iff.mpr
    rintro rfl
    exact Nat.lt_irrefl _ less
  have here := place_append front (middle ++ back)
  have there := place_append (front ++ middle) back
  rw [List.append_assoc, byteLength_append] at there
  simp only [here, there, Place.key, Prod.Lex.toLex_lt_toLex]
  by_cases broken : ∃ c ∈ middle, isLineBreak c = true
  next =>
    have more := List.countP_pos_iff.mpr broken
    refine .inl ?_
    rw [List.countP_append]
    omega
  next =>
    have unbroken : ∀ c ∈ middle, isLineBreak c = false := by simpa using broken
    have none : middle.countP isLineBreak = 0 := List.countP_eq_zero.mpr (by simpa using broken)
    refine .inr ⟨by rw [List.countP_append, none, Nat.add_zero], ?_⟩
    rw [lastLine_append_of_unbroken front unbroken, List.length_append]
    omega

structure CutsLine (text before line after : Text) : Prop where
  whole : text = before ++ line ++ after
  starts : before.getLast?.all isLineBreak = true
  unbroken : ∀ c ∈ line, isLineBreak c = false
  stops : after.head?.all isLineBreak = true

def lineAround (text : Text) (offset : Nat) : Text :=
  (text.takeBytes offset).lastLine ++ (text.dropBytes offset).firstLine

theorem lineAround_append :
    (front ++ back).lineAround front.byteLength = front.lastLine ++ back.firstLine := by
  rw [lineAround, takeBytes_byteLength, dropBytes_byteLength]

theorem countP_endedLines : front.endedLines.countP isLineBreak = front.countP isLineBreak := by
  have none : front.lastLine.countP isLineBreak = 0 := by
    apply List.countP_eq_zero.mpr
    intro c member
    simp [not_isLineBreak_of_mem_lastLine front member]
  have parts := congrArg (List.countP isLineBreak) (endedLines_append_lastLine front)
  rwa [List.countP_append, none, Nat.add_zero] at parts

theorem unbroken_line : ∀ c ∈ front.lastLine ++ back.firstLine, isLineBreak c = false := by
  intro c member
  rcases List.mem_append.mp member with inFront | inBack
  · exact not_isLineBreak_of_mem_lastLine front inFront
  · simpa using List.mem_takeWhile_imp inBack

theorem cutsLine_append : CutsLine (front ++ back) front.endedLines (front.lastLine ++ back.firstLine)
    (back.dropWhile fun c => !isLineBreak c) := by
  refine ⟨?_, ?_, unbroken_line front back, ?_⟩
  · rw [firstLine, List.append_assoc, List.append_assoc, List.takeWhile_append_dropWhile,
      ← List.append_assoc, endedLines_append_lastLine]
  · rw [Option.all_eq_true]
    intro c last
    obtain ⟨nonempty, rfl⟩ := List.mem_getLast?_eq_getLast last
    simpa [endedLines] using List.rdropWhile_last_not _ front nonempty
  · have stop := List.head?_dropWhile_not (fun c => !isLineBreak c) back
    cases next : (back.dropWhile fun c => !isLineBreak c).head? with
    | none => rfl
    | some c => simpa [next] using stop

end Text

namespace Report

def shownLines (source : Text) (insertion : Insertion) : List Text :=
  [Text.decimal insertion.place.line ++ [':'] ++ Text.decimal insertion.place.column ++ [' '] ++
      Text.of insertion.reason.describe,
    margin ++ source.lineAround insertion.offset,
    margin ++ List.replicate (insertion.place.column - 1) ' ' ++ ['^']]

def linesText (lines : List Text) : Text :=
  lines.flatMap (· ++ ['\n'])

/-- The caret is in the line of the semicolon or at its end, and below the place for it. -/
structure PointsAt (source : Text) (insertion : Insertion) : Prop where
  boundary : source.IsBoundary insertion.offset
  place : insertion.place = source.place insertion.offset
  caret : ∃ before after,
    let line := source.lineAround insertion.offset
    source.CutsLine before line after ∧
      insertion.place.line = before.countP Text.isLineBreak + 1 ∧
      insertion.place.column - 1 ≤ line.length ∧
      (before ++ line.take (insertion.place.column - 1)).byteLength = insertion.offset

variable {source : Text} {mode : SiteMode} {scope : Option (List Span)} {insertion : Insertion}

theorem pointsAt_of_boundary (boundary : source.IsBoundary insertion.offset)
    (place : insertion.place = source.place insertion.offset) : PointsAt source insertion := by
  refine ⟨boundary, place, ?_⟩
  obtain ⟨front, back, rfl, offset⟩ := Text.isBoundary_iff.mp boundary
  rw [← offset, Text.place_append] at place
  rw [← offset, Text.lineAround_append, place]
  refine ⟨front.endedLines, _, Text.cutsLine_append front back, ?_, by simp, ?_⟩
  · rw [Text.countP_endedLines]
  · rw [Nat.add_sub_cancel, List.take_left, Text.endedLines_append_lastLine]

theorem pointsAt_of_mem (member : insertion ∈ (ofSource source mode scope).insertions) :
    PointsAt source insertion := by
  obtain ⟨boundary, place⟩ := placed_of_mem member
  exact pointsAt_of_boundary boundary place

theorem newline_not_mem_decimal (number : Nat) : '\n' ∉ Text.decimal number := by
  intro member
  exact absurd (Text.isAsciiDigit_of_mem_decimal member) (by decide)

theorem newline_not_mem_describe (reason : Reason) : '\n' ∉ Text.of reason.describe := by
  unfold Text.of
  cases reason <;> decide

theorem newline_not_mem_shownLines (source : Text) (insertion : Insertion) :
    ∀ shown ∈ shownLines source insertion, '\n' ∉ shown := by
  have line : '\n' ∉ source.lineAround insertion.offset := by
    intro member
    exact absurd (Text.unbroken_line _ _ _ member) (by decide)
  simp [shownLines, margin, newline_not_mem_decimal, newline_not_mem_describe, line]

theorem context_of_pointsAt (points : PointsAt source insertion) :
    context source insertion = .ok (linesText (shownLines source insertion).tail) := by
  obtain ⟨front, back, rfl, offset⟩ := Text.isBoundary_iff.mp points.boundary
  have place := points.place
  rw [← offset, Text.place_append] at place
  have found := Text.line?_append front back
  have around := Text.lineAround_append front back
  rw [offset] at around
  simp [context, place, found, shownLines, linesText, around]

theorem render_of_pointsAt {insertions : List Insertion}
    (points : ∀ insertion ∈ insertions, PointsAt source insertion) :
    renderInsertions source true insertions =
      .ok (insertions.flatMap fun insertion => linesText (shownLines source insertion)) := by
  induction insertions with
  | nil => rfl
  | cons insertion rest ih =>
    obtain ⟨here, others⟩ := List.forall_mem_cons.mp points
    have whole : linesText (shownLines source insertion) =
        headline insertion ++ linesText (shownLines source insertion).tail := by
      simp [linesText, shownLines, headline]
    simp only [renderInsertions, if_true, context_of_pointsAt here, ih others, List.flatMap_cons,
      whole]
    rfl

/-- Boundaries have places of their own, in the same order, and a report that is rendered with its
context shows each insertion on three lines, with the caret below its place in the source. -/
theorem caret_at_insertion (source : Text) (mode : SiteMode) (scope : Option (List Span)) :
    (∀ offset, source.IsBoundary offset → source.place offset =
      { line := (source.takeBytes offset).countP Text.isLineBreak + 1
        column := (source.takeBytes offset).lastLine.length + 1 }) ∧
      StrictMonoOn (fun offset => (source.place offset).key) {offset | source.IsBoundary offset} ∧
      Set.InjOn source.place {offset | source.IsBoundary offset} ∧
      let insertions := (ofSource source mode scope).insertions
      (ofSource source mode scope).render source true =
          .ok (insertions.flatMap fun insertion => linesText (shownLines source insertion)) ∧
        ∀ insertion ∈ insertions, PointsAt source insertion ∧
          ∀ shown ∈ shownLines source insertion, '\n' ∉ shown := by
  have ordered := Text.strictMonoOn_key_place source
  refine ⟨fun offset boundary => Text.place_of_isBoundary boundary, ordered, ?_, ?_, ?_⟩
  · intro offset boundary other boundary' same
    exact ordered.injOn boundary boundary' (congrArg Place.key same)
  · exact render_of_pointsAt fun insertion member => pointsAt_of_mem member
  · exact fun insertion member =>
      ⟨pointsAt_of_mem member, newline_not_mem_shownLines source insertion⟩

theorem caret_behind_wide_characters :
    let source : Text := ['a', '\u2028', 'é', '\n', 'b']
    let insertion : Insertion := { offset := 6, place := ⟨2, 2⟩, reason := .newStatement }
    insertion ∈ (ofSource source .tokenEnd none).insertions ∧ PointsAt source insertion ∧
      (∀ shown ∈ shownLines source insertion, '\n' ∉ shown) ∧
      (source.place 6).column = (source.takeBytes 6).lastLine.length + 1 ∧
      (source.place 4).key < (source.place 6).key ∧ source.place 4 ≠ source.place 6 := by
  intro source insertion
  have found : insertion ∈ (ofSource source .tokenEnd none).insertions := by decide +kernel
  have start : source.IsBoundary 4 := by decide
  have stop : source.IsBoundary 6 := by decide
  obtain ⟨places, ordered, distinct, _, shown⟩ := caret_at_insertion source .tokenEnd none
  obtain ⟨points, unbroken⟩ := shown insertion found
  exact ⟨found, points, unbroken, congrArg Place.column (places 6 stop),
    ordered start stop (by decide), fun same => absurd (distinct start stop same) (by decide)⟩

end Report

end Terminator
