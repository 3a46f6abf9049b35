import Terminator.Text

set_option autoImplicit false

namespace Terminator.Text

def digitChar (digit : Nat) : Char :=
  Char.ofNat ('0'.toNat + digit)

def digitValue (c : Char) : Nat :=
  c.toNat - '0'.toNat

def decimal (number : Nat) : Text :=
  if number < 10 then [digitChar number]
  else decimal (number / 10) ++ [digitChar (number % 10)]
termination_by number

def isDecimal (text : Text) : Bool :=
  !text.isEmpty && text.all isAsciiDigit

def decimalValue (digits : Text) : Nat :=
  digits.foldl (fun value c => 10 * value + digitValue c) 0

theorem digitValue_digitChar {digit : Nat} (small : digit < 10) :
    digitValue (digitChar digit) = digit := by
  revert digit
  decide

theorem isAsciiDigit_digitChar {digit : Nat} (small : digit < 10) :
    isAsciiDigit (digitChar digit) = true := by
  revert digit
  decide

theorem decimalValue_append_singleton (digits : Text) (c : Char) :
    decimalValue (digits ++ [c]) = 10 * decimalValue digits + digitValue c := by
  simp [decimalValue]

theorem decimalValue_decimal (number : Nat) : decimalValue (decimal number) = number := by
  fun_induction decimal number with
  | case1 number small => simp [decimalValue, digitValue_digitChar small]
  | case2 number large ih =>
    rw [decimalValue_append_singleton, ih, digitValue_digitChar (by omega)]
    omega

theorem isDecimal_decimal (number : Nat) : isDecimal (decimal number) = true := by
  fun_induction decimal number with
  | case1 number small => simp [isDecimal, isAsciiDigit_digitChar small]
  | case2 number large ih =>
    have last : isAsciiDigit (digitChar (number % 10)) = true :=
      isAsciiDigit_digitChar (by omega)
    simp only [isDecimal, Bool.and_eq_true] at ih
    simp [isDecimal, List.all_append, ih.2, last]

theorem isDecimal_iff {text : Text} :
    isDecimal text = true ↔ text ≠ [] ∧ ∀ c ∈ text, isAsciiDigit c = true := by
  simp [isDecimal]

theorem isAsciiDigit_of_mem_decimal {number : Nat} {c : Char} (member : c ∈ decimal number) :
    isAsciiDigit c = true :=
  (isDecimal_iff.mp (isDecimal_decimal number)).2 c member

end Terminator.Text
