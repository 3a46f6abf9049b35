import Mathlib.Data.List.DropRight
import Terminator.Proofs.TextBoundaries

set_option autoImplicit false

namespace Terminator.Text

def endedLines (text : Text) : Text :=
  text.rdropWhile fun c => !isLineBreak c

def lastLine (text : Text) : Text :=
  text.rtakeWhile fun c => !isLineBreak c

variable {offset start : Nat} {text : Text} (front back : Text)

theorem endedLines_append_lastLine : front.endedLines ++ front.lastLine = front :=
  List.rdropWhile_append_rtakeWhile

theorem startsAfterBreaks_append (offset : Nat) :
    startsAfterBreaks offset (front ++ back) =
      startsAfterBreaks offset front ++ startsAfterBreaks (offset + front.byteLength) back := by
  induction front generalizing offset with
  | nil => rfl
  | cons c rest ih =>
    rw [List.cons_append, startsAfterBreaks, startsAfterBreaks, ih, byteLength_cons, Nat.add_assoc]
    split
    · rfl
    · rfl

theorem lineStarts_append :
    (front ++ back).lineStarts = front.lineStarts ++ startsAfterBreaks front.byteLength back := by
  rw [lineStarts, startsAfterBreaks_append, Nat.zero_add, ← List.cons_append, ← lineStarts]

theorem bounds_of_mem_startsAfterBreaks (member : start ∈ startsAfterBreaks offset text) :
    offset < start ∧ start ≤ offset + text.byteLength := by
  induction text generalizing offset with
  | nil => cases member
  | cons c rest ih =>
    have wide := c.utf8Size_pos
    have later : start ∈ startsAfterBreaks (offset + c.utf8Size) rest →
        offset < start ∧ start ≤ offset + byteLength (c :: rest) := by
      intro inRest
      have bounds := ih inRest
      rw [byteLength_cons]
      omega
    rw [startsAfterBreaks] at member
    split at member
    next =>
      rcases List.mem_cons.mp member with rfl | inRest
      · rw [byteLength_cons]
        omega
      · exact later inRest
    next => exact later member

theorem pairwise_startsAfterBreaks (offset : Nat) (text : Text) :
    (startsAfterBreaks offset text).Pairwise (· < ·) := by
  induction text generalizing offset with
  | nil => exact List.Pairwise.nil
  | cons c rest ih =>
    rw [startsAfterBreaks]
    split
    next =>
      exact List.pairwise_cons.mpr
        ⟨fun _ member => (bounds_of_mem_startsAfterBreaks member).1, ih _⟩
    next => exact ih _

theorem pairwise_lineStarts (text : Text) : text.lineStarts.Pairwise (· < ·) :=
  List.pairwise_cons.mpr ⟨fun _ member => (bounds_of_mem_startsAfterBreaks member).1,
    pairwise_startsAfterBreaks 0 text⟩

theorem le_byteLength_of_mem_lineStarts (member : start ∈ text.lineStarts) :
    start ≤ text.byteLength := by
  rcases List.mem_cons.mp member with rfl | later
  · exact Nat.zero_le _
  · simpa using (bounds_of_mem_startsAfterBreaks later).2

theorem length_startsAfterBreaks (offset : Nat) (text : Text) :
    (startsAfterBreaks offset text).length = text.countP isLineBreak := by
  induction text generalizing offset with
  | nil => rfl
  | cons c rest ih =>
    rw [startsAfterBreaks, List.countP_cons]
    split
    next => rw [List.length_cons, ih]
    next => rw [ih, Nat.add_zero]

theorem length_lineStarts (text : Text) :
    text.lineStarts.length = text.countP isLineBreak + 1 := by
  rw [lineStarts, List.length_cons, length_startsAfterBreaks]

theorem getLast?_lineStarts (text : Text) :
    text.lineStarts.getLast? = some text.endedLines.byteLength := by
  induction text using List.reverseRecOn with
  | nil => rfl
  | append_singleton init c ih =>
    rw [lineStarts_append, startsAfterBreaks, startsAfterBreaks, endedLines]
    split
    next broken =>
      rw [List.getLast?_concat, List.rdropWhile_concat_neg _ _ _ (by simp [broken]),
        byteLength_append, byteLength_cons, byteLength_nil, Nat.add_zero]
    next inLine =>
      rw [List.append_nil, ih, List.rdropWhile_concat_pos _ _ _ (by simp [inLine]), endedLines]

theorem getElem?_lineStarts :
    (front ++ back).lineStarts[front.countP isLineBreak]? = some front.endedLines.byteLength := by
  have last := getLast?_lineStarts front
  rw [List.getLast?_eq_getElem?, length_lineStarts, Nat.add_sub_cancel] at last
  rw [lineStarts_append, List.getElem?_append_left, last]
  rw [length_lineStarts]
  omega

theorem countP_lineStarts :
    (front ++ back).lineStarts.countP (· ≤ front.byteLength) = front.countP isLineBreak + 1 := by
  have before : front.lineStarts.countP (· ≤ front.byteLength) = front.lineStarts.length := by
    apply List.countP_eq_length.mpr
    intro start member
    exact decide_eq_true (le_byteLength_of_mem_lineStarts member)
  have behind : (startsAfterBreaks front.byteLength back).countP (· ≤ front.byteLength) = 0 := by
    apply List.countP_eq_zero.mpr
    intro start member
    have beyond := (bounds_of_mem_startsAfterBreaks member).1
    simp only [decide_eq_true_eq]
    omega
  rw [lineStarts_append, List.countP_append, before, behind, length_lineStarts, Nat.add_zero]

theorem slice?_lastLine :
    (front ++ back).slice? front.endedLines.byteLength front.byteLength = some front.lastLine := by
  have cut := slice?_append front.endedLines front.lastLine back
  rwa [← List.append_assoc, endedLines_append_lastLine] at cut

theorem place_append : (front ++ back).place front.byteLength =
    { line := front.countP isLineBreak + 1, column := front.lastLine.length + 1 } := by
  have start : (front ++ back).lineStarts.getD (front.countP isLineBreak) 0 =
      front.endedLines.byteLength := by
    rw [List.getD_eq_getElem?_getD, getElem?_lineStarts, Option.getD_some]
  simp only [place, countP_lineStarts, Nat.add_sub_cancel, start,
    slice_of_slice? (slice?_lastLine front back)]

theorem firstLine_append {line : Text} (unbroken : ∀ c ∈ line, isLineBreak c = false) :
    firstLine (line ++ back) = line ++ back.firstLine :=
  List.takeWhile_append_of_pos fun c member => by simp [unbroken c member]

theorem not_isLineBreak_of_mem_lastLine {c : Char} (member : c ∈ front.lastLine) :
    isLineBreak c = false := by
  simpa using List.mem_rtakeWhile_imp member

theorem line?_append : (front ++ back).line? (front.countP isLineBreak + 1) =
    some (front.lastLine ++ back.firstLine) := by
  have behind : (front ++ back).dropBytes front.endedLines.byteLength = front.lastLine ++ back := by
    have cut := dropBytes_byteLength front.endedLines (front.lastLine ++ back)
    rwa [← List.append_assoc, endedLines_append_lastLine] at cut
  rw [line?, getElem?_lineStarts, Option.map_some, behind, firstLine_append]
  intro c member
  exact not_isLineBreak_of_mem_lastLine front member

theorem slice?_line :
    (front ++ back).slice? front.endedLines.byteLength
        (front.endedLines.byteLength + byteLength (front.lastLine ++ back.firstLine)) =
      some (front.lastLine ++ back.firstLine) := by
  have whole : front ++ back = front.endedLines ++
      ((front.lastLine ++ back.firstLine) ++ back.dropWhile fun c => !isLineBreak c) := by
    rw [firstLine, List.append_assoc, List.takeWhile_append_dropWhile, ← List.append_assoc,
      endedLines_append_lastLine]
  rw [whole, ← byteLength_append]
  exact slice?_append _ _ _

end Terminator.Text
