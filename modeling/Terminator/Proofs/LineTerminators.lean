import Terminator.Proofs.LexerAgreement

set_option autoImplicit false

namespace Terminator

namespace Text

def terminators : List Text := [['\n'], ['\r', '\n'], ['\u2028'], ['\u2029']]

/-- Whether a text is another one with each line break replaced by some terminator. -/
inductive Rebroken : Text → Text → Prop
  | nil : Rebroken [] []
  | keep {c : Char} {rest other : Text} : isLineBreak c = false → Rebroken rest other →
      Rebroken (c :: rest) (c :: other)
  | replace {c : Char} {rest other : Text} (terminator : Text) : isLineBreak c = true →
      terminator ∈ terminators → Rebroken rest other → Rebroken (c :: rest) (terminator ++ other)

def endings : List Char := ['\n', '\r', '\u2028', '\u2029']

variable {text other terminator : Text} {c : Char} {holds : Char → Bool}

theorem mem_endings_of_isLineBreak (broken : isLineBreak c = true) : c ∈ endings := by
  simp only [isLineBreak, Bool.or_eq_true, decide_eq_true_eq] at broken
  rcases broken with (rfl | rfl) | rfl <;> decide

theorem exists_ending_of_terminator (ends : terminator ∈ terminators) :
    ∃ c ∈ endings, ∃ tail, terminator = c :: tail := by
  simp only [terminators, List.mem_cons, List.not_mem_nil, or_false] at ends
  rcases ends with rfl | rfl | rfl | rfl <;> exact ⟨_, by decide, _, rfl⟩

theorem not_holds_of_ending (apart : endings.all (!holds ·) = true) (ending : c ∈ endings) :
    holds c = false := by
  simpa using List.all_eq_true.mp apart c ending

theorem Rebroken.any_head? (same : Rebroken text other) (apart : endings.all (!holds ·) = true) :
    (other.head?).any holds = (text.head?).any holds := by
  cases same with
  | nil => rfl
  | keep unbroken same => rfl
  | replace terminator broken ends same =>
    obtain ⟨d, ending, tail, rfl⟩ := exists_ending_of_terminator ends
    have unlike := not_holds_of_ending apart (mem_endings_of_isLineBreak broken)
    simp [not_holds_of_ending apart ending, unlike]

theorem Rebroken.takeWhile_eq (same : Rebroken text other) (apart : endings.all (!holds ·) = true) :
    other.takeWhile holds = text.takeWhile holds := by
  induction same with
  | nil => rfl
  | keep unbroken same ih => simp only [List.takeWhile_cons, ih]
  | replace terminator broken ends same ih =>
    obtain ⟨d, ending, tail, rfl⟩ := exists_ending_of_terminator ends
    have unlike := not_holds_of_ending apart (mem_endings_of_isLineBreak broken)
    simp [not_holds_of_ending apart ending, unlike]

theorem Rebroken.head?_eq_some_iff (same : Rebroken text other) (solid : c ∉ endings) :
    other.head? = some c ↔ text.head? = some c := by
  have here (first : Option Char) : first = some c ↔ first.any (· = c) = true := by
    cases first <;> simp
  rw [here, here, same.any_head?]
  rw [List.all_eq_true]
  intro d ending
  rw [Bool.not_eq_true', decide_eq_false_iff_not]
  rintro rfl
  exact solid ending

end Text

namespace Policy

open Text

variable {text other line terminator : Text}

theorem lineReason_of_ending {c : Char} (ending : c ∈ endings) :
    lineReason (c :: line) = .newStatement := by
  have blank : endings.all isBlank = true := by decide
  exact lineReason_of_isBlank (List.all_eq_true.mp blank c ending)

theorem lineReason_of_rebroken (same : Rebroken text other) :
    lineReason other = lineReason text := by
  cases same with
  | nil => rfl
  | @keep c rest other unbroken same =>
    have digit := same.any_head? (show endings.all (!isAsciiDigit ·) = true by decide)
    have plus := same.head?_eq_some_iff (show '+' ∉ endings by decide)
    have minus := same.head?_eq_some_iff (show '-' ∉ endings by decide)
    have equals := same.head?_eq_some_iff (show '=' ∉ endings by decide)
    have word := (Rebroken.keep unbroken same).takeWhile_eq
      (show endings.all (!isAlphabetic ·) = true by decide +kernel)
    simp only [lineReason_cons, digit, plus, minus, equals, word]
  | replace terminator broken ends same =>
    obtain ⟨d, ending, tail, rfl⟩ := exists_ending_of_terminator ends
    rw [List.cons_append, lineReason_of_ending ending,
      lineReason_of_ending (mem_endings_of_isLineBreak broken)]

-- A carriage return in front of a line feed is passed over as a blank.
theorem reason_of_terminator (ends : terminator ∈ terminators) :
    reason (View.ofText (terminator ++ line)) = lineReason line := by
  simp only [terminators, List.mem_cons, List.not_mem_nil, or_false] at ends
  rcases ends with rfl | rfl | rfl | rfl
  · exact reason_of_lineBreak rfl _
  · exact (reason_cons_of_blank (by decide) _).trans (reason_of_lineBreak rfl _)
  · exact reason_of_lineBreak rfl _
  · exact reason_of_lineBreak rfl _

theorem reason_of_rebroken (same : Rebroken text other) :
    reason (View.ofText other) = reason (View.ofText text) := by
  induction same with
  | nil => rfl
  | @keep c rest other unbroken same ih =>
    by_cases blank : Cursor.inlineBlank c = true
    · exact (reason_cons_of_blank blank _).trans (ih.trans (reason_cons_of_blank blank _).symm)
    · rw [Bool.not_eq_true] at blank
      have settled (line : Text) := reason_cons_of_solid blank (View.ofText line)
      simp only [unbroken] at settled
      exact (settled other).trans (settled rest).symm
  | replace terminator broken ends same ih =>
    rw [reason_of_terminator ends, reason_of_lineBreak broken, lineReason_of_rebroken same]

end Policy

namespace SourceReader

theorem evaluate_whole (source : Text) :
    ((whole source).evaluate (.singleton .automaticSemicolon)).1 =
      Verdict.ofReason (Policy.reason (View.ofText source)) := by
  have start : (whole source).seek 0 = whole source := by
    rw [seek, Text.floorBoundary_eq_self (Text.isBoundary_zero _)]
    rfl
  have settled := evaluate_behind [] source
  rwa [Text.byteLength_nil, List.nil_append, start] at settled

/-- How the lines of a text are terminated makes no difference to what is decided at its start. -/
theorem evaluate_of_rebroken (text other : Text) (same : text.Rebroken other)
    (accepted : TokenSet) :
    ((whole other).evaluate accepted).1 = ((whole text).evaluate accepted).1 := by
  obtain ⟨flag⟩ := accepted
  cases flag with
  | false => rw [evaluate_refused rfl, evaluate_refused rfl]
  | true =>
    have settled := Policy.reason_of_rebroken same
    exact (evaluate_whole other).trans (settled ▸ (evaluate_whole text).symm)

theorem operator_between_terminators :
    let text : Text := [' ', '\n', 'i', 'n', '\u2028']
    let other : Text := [' ', '\r', '\n', 'i', 'n', '\r', '\n']
    text.Rebroken other ∧
      ((whole other).evaluate (.singleton .automaticSemicolon)).1 = .ofReason .inKeyword := by
  intro text other
  have operator : Text.Rebroken ['i', 'n', '\u2028'] ['i', 'n', '\r', '\n'] :=
    .keep rfl (.keep rfl (.replace ['\r', '\n'] rfl (by decide) .nil))
  have same : text.Rebroken other := .keep rfl (.replace ['\r', '\n'] rfl (by decide) operator)
  refine ⟨same, ?_⟩
  rw [evaluate_of_rebroken text other same]
  decide +kernel

end SourceReader

end Terminator
