import Terminator.Text.Decimal

set_option autoImplicit false

namespace Terminator

/-- A binary floating point number of 64 bits. A finite one is its significand times a power of
two, with 53 bits in the significand or else the least exponent. -/
inductive Binary64 where
  | finite (negative : Bool) (significand : Nat) (exponent : Int)
  | infinite (negative : Bool)
  | notANumber
  deriving DecidableEq, Repr

namespace Binary64

def leastExponent : Int := -1074

def greatestExponent : Int := 971

def leastNormal : Nat := 0x10000000000000

def roundQuotient (numerator denominator : Nat) : Nat :=
  let quotient := numerator / denominator
  let twice := 2 * (numerator % denominator)
  if denominator < twice || (twice = denominator && quotient % 2 = 1) then quotient + 1
  else quotient

def scaleDown (numerator denominator : Nat) (exponent : Int) : Nat × Nat :=
  match exponent with
  | .ofNat power => (numerator, denominator * Nat.pow 2 power)
  | .negSucc power => (numerator * Nat.pow 2 (power + 1), denominator)

def ofQuotient (negative : Bool) (numerator denominator : Nat) : Binary64 :=
  let estimate : Int := (numerator.log2 : Int) - denominator.log2 - 52
  let (top, bottom) := scaleDown numerator denominator estimate
  let exponent := max leastExponent (if top < bottom * leastNormal then estimate - 1 else estimate)
  let (top, bottom) := scaleDown numerator denominator exponent
  let significand := roundQuotient top bottom
  let (significand, exponent) :=
    if significand = 2 * leastNormal then (leastNormal, exponent + 1) else (significand, exponent)
  if greatestExponent < exponent then .infinite negative
  else .finite negative significand exponent

-- Numbers far out of range are settled by their length, before any power is computed.
def ofDecimal (negative : Bool) (digits : Nat) (power : Int) : Binary64 :=
  let magnitude : Int := (Text.decimal digits).length + power
  if digits = 0 || magnitude < -330 then .finite negative 0 leastExponent
  else if 310 < magnitude then .infinite negative
  else match power with
    | .ofNat power => ofQuotient negative (digits * Nat.pow 10 power) 1
    | .negSucc power => ofQuotient negative digits (Nat.pow 10 (power + 1))

def isZero : Binary64 → Bool
  | .finite _ significand _ => significand = 0
  | .infinite _ | .notANumber => false

def inUnits (numerator denominator : Nat) : Int → Nat × Nat
  | .ofNat power => (numerator, denominator * Nat.pow 10 power)
  | .negSucc power => (numerator * Nat.pow 10 (power + 1), denominator)

structure Interval where
  low : Nat
  value : Nat
  high : Nat
  denominator : Nat
  closed : Bool

-- Quarters of the last bit make the halves between neighbours whole. The lower neighbour of a power
-- of two is nearer than the upper one.
def interval (significand : Nat) (exponent : Int) : Interval :=
  let below := if significand = leastNormal && leastExponent < exponent then 1 else 2
  let (unit, denominator) := match exponent - 2 with
    | .ofNat power => (Nat.pow 2 power, 1)
    | .negSucc power => (1, Nat.pow 2 (power + 1))
  { low := (4 * significand - below) * unit
    value := 4 * significand * unit
    high := (4 * significand + 2) * unit
    denominator
    closed := significand % 2 = 0 }

/-- The number of digits before the decimal point, or less than one if zeros follow the point. No
positive number is so small that its first 400 places are zeros. -/
def wholeDigits (numerator denominator : Nat) : Int :=
  (Text.decimal (numerator * Nat.pow 10 400 / denominator)).length - 400

def Interval.readsBack (interval : Interval) (grid : Int) (candidate : Nat) : Bool :=
  let (low, lowUnit) := inUnits interval.low interval.denominator grid
  let (high, highUnit) := inUnits interval.high interval.denominator grid
  if interval.closed then low ≤ candidate * lowUnit && candidate * highUnit ≤ high
  else low < candidate * lowUnit && candidate * highUnit < high

def Interval.onGrid? (interval : Interval) (grid : Int) : Option (Nat × Int) :=
  let (top, unit) := inUnits interval.value interval.denominator grid
  let down := top / unit
  let nearerDown := 2 * (top % unit) < unit
  match down != 0 && interval.readsBack grid down, interval.readsBack grid (down + 1) with
  | true, true => some (if nearerDown then down else down + 1, grid)
  | true, false => some (down, grid)
  | false, true => some (down + 1, grid)
  | false, false => none

-- The first grid is as coarse as the power of ten above the number, which may read back itself.
/-- The fewest decimal digits that read back as a positive number, with the power of ten they are
to be multiplied by. Seventeen digits are always enough. -/
def shortest (significand : Nat) (exponent : Int) : Nat × Int :=
  let interval := interval significand exponent
  let first := wholeDigits interval.value interval.denominator
  ((List.range 18).findSome? fun (finer : Nat) => interval.onGrid? (first - finer)).getD (0, 0)

def positional (digits : Nat) (power : Int) : Text :=
  match power with
  | .ofNat power => Text.decimal (digits * Nat.pow 10 power)
  | .negSucc power =>
    let places := power + 1
    let written := Text.decimal digits
    let padded := List.replicate (places + 1 - written.length) '0' ++ written
    padded.take (padded.length - places) ++ ['.'] ++ padded.drop (padded.length - places)

def toText : Binary64 → Text
  | .notANumber => Text.of "NaN"
  | .infinite negative => if negative then Text.of "-inf" else Text.of "inf"
  | .finite negative significand exponent =>
    let written :=
      if significand = 0 then ['0']
      else
        let (digits, power) := shortest significand exponent
        positional digits power
    let pointed := if written.contains '.' then written else written ++ ['.', '0']
    if negative then '-' :: pointed else pointed

end Binary64

end Terminator
