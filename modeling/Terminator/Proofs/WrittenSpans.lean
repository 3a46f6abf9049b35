import Mathlib.Data.List.DropRight
import Mathlib.Data.List.Infix
import Mathlib.Data.Nat.Digits.Defs
import Terminator.Command

set_option autoImplicit false

namespace Terminator.Text

theorem trim_append {before middle after : Text} (blankBefore : ∀ c ∈ before, isBlank c = true)
    (blankAfter : ∀ c ∈ after, isBlank c = true) (solid : ∀ c ∈ middle, isBlank c = false) :
    trim (before ++ middle ++ after) = middle := by
  have kept (text rest : Text) (none : ∀ c ∈ text, isBlank c = false) (some : text ≠ []) :
      (text ++ rest).dropWhile isBlank = text ++ rest := by
    cases text with
    | nil => exact absurd rfl some
    | cons c text => simp [none c List.mem_cons_self]
  by_cases empty : middle = []
  next =>
    have blanks : ∀ c ∈ before ++ after, isBlank c = true := by
      simpa [or_imp, forall_and] using ⟨blankBefore, blankAfter⟩
    simp [trim, empty, List.dropWhile_eq_nil_iff.mpr blanks]
  next =>
    have backwards := kept middle.reverse [] (by simpa using solid) (by simpa using empty)
    rw [List.append_nil] at backwards
    rw [trim, List.append_assoc, List.dropWhile_append_of_pos blankBefore,
      kept middle after solid empty, List.reverse_append,
      List.dropWhile_append_of_pos (by simpa using blankAfter), backwards, List.reverse_reverse]

theorem exists_trim (text : Text) : ∃ before after, text = before ++ text.trim ++ after ∧
    (∀ c ∈ before, isBlank c = true) ∧ ∀ c ∈ after, isBlank c = true := by
  refine ⟨text.takeWhile isBlank, (text.dropWhile isBlank).rtakeWhile isBlank, ?_,
    fun c member => List.mem_takeWhile_imp member, fun c member => List.mem_rtakeWhile_imp member⟩
  have whole := @List.rdropWhile_append_rtakeWhile _ isBlank (text.dropWhile isBlank)
  rw [List.append_assoc, show text.trim = (text.dropWhile isBlank).rdropWhile isBlank from rfl,
    whole, List.takeWhile_append_dropWhile]

theorem decimalValue_eq_ofDigits (digits : Text) :
    decimalValue digits = Nat.ofDigits 10 (digits.reverse.map digitValue) := by
  induction digits using List.reverseRecOn with
  | nil => rfl
  | append_singleton digits c ih =>
    rw [decimalValue_append_singleton, ih, List.reverse_concat, List.map_cons, Nat.ofDigits_cons,
      Nat.add_comm]

theorem isBlank_of_isAsciiDigit {c : Char} (digit : isAsciiDigit c = true) : isBlank c = false := by
  have least : 48 ≤ c.toNat ∧ c.toNat ≤ 57 := by
    simpa [isAsciiDigit, Char.le_def, UInt32.le_iff_toNat_le] using digit
  simp [isBlank]
  omega

end Terminator.Text

namespace Terminator.Span

/-- The grammar of a bound: ASCII digits, with one plus sign before them or none and any blanks
around. The number has to fit 64 bits. -/
def WritesOffset (part : Text) (offset : Nat) : Prop :=
  ∃ before sign digits after, part = before ++ (sign ++ digits) ++ after ∧
    (∀ c ∈ before, Text.isBlank c = true) ∧ (∀ c ∈ after, Text.isBlank c = true) ∧
    (sign = [] ∨ sign = ['+']) ∧ digits ≠ [] ∧ (∀ c ∈ digits, Text.isAsciiDigit c = true) ∧
    offset = Nat.ofDigits 10 (digits.reverse.map fun c => c.toNat - '0'.toNat) ∧ offset < 2 ^ 64

-- There are no two dots in a row before those that part the bounds, also not with the first of
-- them.
def Writes (written : Text) (span : Span) : Prop :=
  ∃ before after, written = before ++ '.' :: '.' :: after ∧ ¬['.', '.'] <:+: before ++ ['.'] ∧
    WritesOffset before span.start ∧ WritesOffset after span.stop ∧ span.start ≤ span.stop

theorem splitAtDots_eq_some {text before after : Text}
    (found : splitAtDots text = some (before, after)) :
    text = before ++ '.' :: '.' :: after ∧ ¬['.', '.'] <:+: before ++ ['.'] := by
  fun_induction splitAtDots text generalizing before with
  | case1 rest =>
    obtain ⟨rfl, rfl⟩ := Prod.mk.inj (Option.some.inj found)
    exact ⟨rfl, by decide⟩
  | case2 c rest other ih =>
    obtain ⟨⟨front, back⟩, inner, same⟩ := Option.map_eq_some_iff.mp found
    obtain ⟨rfl, rfl⟩ := Prod.mk.inj same
    obtain ⟨rfl, first⟩ := ih inner
    refine ⟨rfl, fun dots => ?_⟩
    rcases List.infix_cons_iff.mp dots with here | later
    next =>
      obtain ⟨dot, next⟩ := List.cons_prefix_cons.mp here
      cases front with
      | nil => exact other _ dot.symm rfl
      | cons d front => exact other _ dot.symm (by rw [(List.cons_prefix_cons.mp next).1]; rfl)
    next => exact first later
  | case3 => cases found

theorem splitAtDots_append {before after : Text} (first : ¬['.', '.'] <:+: before ++ ['.']) :
    splitAtDots (before ++ '.' :: '.' :: after) = some (before, after) := by
  induction before with
  | nil => rfl
  | cons c before ih =>
    have later : ¬['.', '.'] <:+: before ++ ['.'] := fun dots => first (List.infix_cons dots)
    have other (rest : Text) (dot : c = '.')
        (next : before ++ '.' :: '.' :: after = '.' :: rest) : False := by
      apply first
      rw [dot]
      cases before with
      | nil => exact List.infix_rfl
      | cons d before =>
        obtain ⟨rfl, _⟩ := List.cons.inj next
        exact ⟨[], before ++ ['.'], rfl⟩
    rw [List.cons_append, splitAtDots, ih later, Option.map_some]
    exact other

theorem readOffset?_eq_some_iff {written : Text} {offset : Nat} :
    readOffset? written = some offset ↔
      ∃ sign digits, written = sign ++ digits ∧ (sign = [] ∨ sign = ['+']) ∧
        Text.isDecimal digits = true ∧ Text.decimalValue digits = offset ∧ offset ≤ maxOffset := by
  constructor
  next =>
    intro read
    simp only [readOffset?, Option.ite_none_right_eq_some, Bool.and_eq_true, decide_eq_true_eq,
      Option.some.injEq] at read
    split at read
    next digits =>
      obtain ⟨⟨decimal, small⟩, rfl⟩ := read
      exact ⟨['+'], digits, rfl, .inr rfl, decimal, rfl, small⟩
    next =>
      obtain ⟨⟨decimal, small⟩, rfl⟩ := read
      exact ⟨[], written, rfl, .inl rfl, decimal, rfl, small⟩
  next =>
    rintro ⟨sign, digits, rfl, rfl | rfl, decimal, rfl, small⟩
    next =>
      have unsigned (rest : Text) (signed : digits = '+' :: rest) : False := by
        rw [signed] at decimal
        simp [Text.isDecimal, Text.isAsciiDigit] at decimal
      rw [List.nil_append, readOffset?, if_pos (by simp [decimal, small])]
      exact unsigned
    next => simp [readOffset?, decimal, small]

theorem le_maxOffset_iff {offset : Nat} : offset ≤ maxOffset ↔ offset < 2 ^ 64 := by
  rw [maxOffset]
  omega

theorem readOffset?_trim_iff {part : Text} {offset : Nat} :
    readOffset? part.trim = some offset ↔ WritesOffset part offset := by
  rw [readOffset?_eq_some_iff]
  constructor
  next =>
    rintro ⟨sign, digits, trimmed, signed, decimal, rfl, small⟩
    obtain ⟨before, after, whole, blankBefore, blankAfter⟩ := Text.exists_trim part
    rw [trimmed] at whole
    obtain ⟨some, inDigits⟩ := Text.isDecimal_iff.mp decimal
    exact ⟨before, sign, digits, after, whole, blankBefore, blankAfter, signed, some, inDigits,
      Text.decimalValue_eq_ofDigits digits, le_maxOffset_iff.mp small⟩
  next =>
    rintro ⟨before, sign, digits, after, rfl, blankBefore, blankAfter, signed, some, decimal, value,
      small⟩
    have solid : ∀ c ∈ sign ++ digits, Text.isBlank c = false := by
      intro c member
      rcases List.mem_append.mp member with inSign | inDigits
      next =>
        rcases signed with rfl | rfl
        next => cases inSign
        next =>
          rw [List.mem_singleton.mp inSign]
          decide
      next => exact Text.isBlank_of_isAsciiDigit (decimal c inDigits)
    refine ⟨sign, digits, Text.trim_append blankBefore blankAfter solid, signed,
      Text.isDecimal_iff.mpr ⟨some, decimal⟩, ?_, le_maxOffset_iff.mpr small⟩
    rw [value]
    exact Text.decimalValue_eq_ofDigits digits

theorem ofText?_eq_some_iff {written : Text} {span : Span} :
    ofText? written = some span ↔ Writes written span := by
  constructor
  next =>
    intro read
    simp only [ofText?, bind, Option.bind_eq_some_iff, Option.ite_none_right_eq_some,
      Option.some.injEq] at read
    obtain ⟨⟨before, after⟩, split, start, readStart, stop, readStop, ordered, rfl⟩ := read
    obtain ⟨whole, first⟩ := splitAtDots_eq_some split
    exact ⟨before, after, whole, first, readOffset?_trim_iff.mp readStart,
      readOffset?_trim_iff.mp readStop, ordered⟩
  next =>
    rintro ⟨before, after, rfl, first, writesStart, writesStop, ordered⟩
    have readStart := readOffset?_trim_iff.mpr writesStart
    have readStop := readOffset?_trim_iff.mpr writesStop
    simp [ofText?, splitAtDots_append first, readStart, readStop, ordered]

theorem writesOffset_decimal {offset : Nat} (small : offset < 2 ^ 64) :
    WritesOffset (Text.decimal offset) offset := by
  have digits := Text.isDecimal_iff.mp (Text.isDecimal_decimal offset)
  have value := Text.decimalValue_eq_ofDigits (Text.decimal offset)
  rw [Text.decimalValue_decimal] at value
  exact ⟨[], [], Text.decimal offset, [], by simp, by simp, by simp, .inl rfl, digits.1, digits.2,
    value, small⟩

theorem writes_toText {span : Span} (ordered : span.start ≤ span.stop)
    (small : span.stop < 2 ^ 64) : Writes span.toText span := by
  have noDot : '.' ∉ Text.decimal span.start :=
    fun dot => absurd (Text.isAsciiDigit_of_mem_decimal dot) (by decide)
  have first : ¬['.', '.'] <:+: Text.decimal span.start ++ ['.'] := by
    intro dots
    have twice := dots.sublist.count_le '.'
    simp [List.count_eq_zero_of_not_mem noDot] at twice
  exact ⟨Text.decimal span.start, Text.decimal span.stop, by simp [toText], first,
    writesOffset_decimal (by omega), writesOffset_decimal small, ordered⟩

end Terminator.Span

namespace Terminator.Command

theorem readRange_eq_ok_iff {written : Text} {span : Span} :
    readRange written = .ok span ↔ Span.Writes written span := by
  rw [← Span.ofText?_eq_some_iff, readRange]
  cases Span.ofText? written <;> simp

/-- A written range is read if it follows the grammar, as the span that it writes, and what is
written in digits is read back. Any other text is refused as it stands. -/
theorem readRange_follows_grammar (written : Text) :
    (∀ span, readRange written = .ok span ↔ Span.Writes written span) ∧
      (readRange written = .error (.badRange written) ↔ ¬∃ span, Span.Writes written span) ∧
      (Failure.badRange written).message = Text.of "invalid included range '" ++ written ++
        Text.of "': expected START..END with START <= END" ∧
      ∀ span : Span, span.start ≤ span.stop → span.stop < 2 ^ 64 →
        readRange (Text.decimal span.start ++ '.' :: '.' :: Text.decimal span.stop) = .ok span := by
  refine ⟨fun span => readRange_eq_ok_iff, ?_, rfl, ?_⟩
  next =>
    simp only [← readRange_eq_ok_iff, readRange]
    cases Span.ofText? written <;> simp
  next =>
    intro span ordered small
    have printed := readRange_eq_ok_iff.mpr (Span.writes_toText ordered small)
    rwa [Span.toText, List.append_assoc] at printed

theorem readRange_greatest :
    let span : Span := { start := 7, stop := 18446744073709551615 }
    span.start ≤ span.stop ∧ span.stop < 2 ^ 64 ∧
      readRange (Text.decimal span.start ++ '.' :: '.' :: Text.decimal span.stop) = .ok span := by
  intro span
  have ordered : span.start ≤ span.stop := by decide
  have small : span.stop < 2 ^ 64 := by decide
  obtain ⟨_, _, _, printed⟩ := readRange_follows_grammar []
  exact ⟨ordered, small, printed span ordered small⟩

end Terminator.Command
