import Terminator.Toml

set_option autoImplicit false

namespace Terminator.Toml

-- No scalar is followed directly by one of these, so a scalar ends where they end.
def isScalarPart (c : Char) : Bool :=
  Text.isAsciiDigit c || Text.isAsciiLetter c || c = '_' || c = '+' || c = '-' || c = '.' ||
    c = ':'

def hexValue? (c : Char) : Option Nat :=
  if Text.isAsciiDigit c then some (Text.digitValue c)
  else if 'a' ≤ c && c ≤ 'f' then some (c.toNat - 'a'.toNat + 10)
  else if 'A' ≤ c && c ≤ 'F' then some (c.toNat - 'A'.toNat + 10)
  else none

def digit? (base : Nat) (c : Char) : Option Nat :=
  (hexValue? c).filter (· < base)

def digits? (base : Nat) : Text → Option (List Nat)
  | [] => none
  | [c] => (digit? base c).map ([·])
  | c :: '_' :: rest => do
    let digit ← digit? base c
    let later ← digits? base rest
    some (digit :: later)
  | c :: rest => do
    let digit ← digit? base c
    let later ← digits? base rest
    some (digit :: later)

def valueOf (base : Nat) (digits : List Nat) : Nat :=
  digits.foldl (fun value digit => base * value + digit) 0

def wholeDigits? (written : Text) : Option (List Nat) :=
  match written with
  | ['0'] => some [0]
  | '0' :: _ => none
  | _ => digits? 10 written

def splitSign : Text → Bool × Text
  | '-' :: rest => (true, rest)
  | '+' :: rest => (false, rest)
  | written => (false, written)

def signed (negative : Bool) (value : Nat) : Int :=
  if negative then -(value : Int) else value

def integerBound : Int := 0x8000000000000000

def integer? (written : Text) : Option Int :=
  let value? : Option Int := match written with
    | '0' :: 'x' :: rest => (digits? 16 rest).map fun digits => (valueOf 16 digits : Int)
    | '0' :: 'o' :: rest => (digits? 8 rest).map fun digits => (valueOf 8 digits : Int)
    | '0' :: 'b' :: rest => (digits? 2 rest).map fun digits => (valueOf 2 digits : Int)
    | _ =>
      let (negative, rest) := splitSign written
      (wholeDigits? rest).map fun digits => signed negative (valueOf 10 digits)
  value?.filter fun value => -integerBound ≤ value && value < integerBound

def splitAt (isMark : Char → Bool) (written : Text) : Text × Option Text :=
  match written.dropWhile (fun c => !isMark c) with
  | [] => (written, none)
  | _ :: rest => (written.takeWhile (fun c => !isMark c), some rest)

def exponent? : Option Text → Option Int
  | none => some 0
  | some written =>
    let (negative, rest) := splitSign written
    (digits? 10 rest).map fun digits => signed negative (valueOf 10 digits)

def fraction? : Option Text → Option (List Nat)
  | none => some []
  | some written => digits? 10 written

-- A number too large is refused, but one too far below zero counts as minus infinity.
def float? (written : Text) : Option Binary64 :=
  let (negative, rest) := splitSign written
  if rest = ['i', 'n', 'f'] then some (.infinite negative)
  else if rest = ['n', 'a', 'n'] then some .notANumber
  else do
    let (plain, exponent) := splitAt (fun c => c = 'e' || c = 'E') rest
    let (whole, fraction) := splitAt (· = '.') plain
    let wholeDigits ← wholeDigits? whole
    let fractionDigits ← fraction? fraction
    let power ← exponent? exponent
    if exponent.isNone && fraction.isNone then none
    else
      let digits := valueOf 10 (wholeDigits ++ fractionDigits)
      match Binary64.ofDecimal negative digits (power - fractionDigits.length) with
      | .infinite false => none
      | value => some value

def twoDigits? (least greatest : Nat) : Text → Option (Text × Text)
  | a :: b :: rest =>
    let value := Text.decimalValue [a, b]
    if Text.isDecimal [a, b] && least ≤ value && value ≤ greatest then some ([a, b], rest)
    else none
  | _ => none

def daysIn (year month : Nat) : Nat :=
  if month = 2 then
    if year % 4 = 0 && (year % 100 != 0 || year % 400 = 0) then 29 else 28
  else if month = 4 || month = 6 || month = 9 || month = 11 then 30
  else 31

def date? : Text → Option (Text × Text)
  | a :: b :: c :: d :: '-' :: rest => do
    let year := [a, b, c, d]
    let (month, rest) ← twoDigits? 1 12 rest
    match rest with
    | '-' :: rest =>
      let greatest := daysIn (Text.decimalValue year) (Text.decimalValue month)
      let (day, rest) ← twoDigits? 1 greatest rest
      if Text.isDecimal year then some (year ++ '-' :: month ++ '-' :: day, rest) else none
    | _ => none
  | _ => none

-- Nine places are kept, and zeros at the end of them are not shown.
def secondFraction : Text → Option (Text × Text)
  | '.' :: rest =>
    let digits := rest.takeWhile Text.isAsciiDigit
    if digits.isEmpty then none
    else
      let shown := ((digits.take 9).reverse.dropWhile (· = '0')).reverse
      some (if shown.isEmpty then [] else '.' :: shown, rest.dropWhile Text.isAsciiDigit)
  | rest => some ([], rest)

def time? (written : Text) : Option (Text × Text) := do
  let (hour, rest) ← twoDigits? 0 23 written
  match rest with
  | ':' :: rest =>
    let (minute, rest) ← twoDigits? 0 59 rest
    match rest with
    | ':' :: rest =>
      let (second, rest) ← twoDigits? 0 60 rest
      let (fraction, rest) ← secondFraction rest
      some (hour ++ ':' :: minute ++ ':' :: second ++ fraction, rest)
    | _ => none
  | _ => none

-- An offset of zero is shown with a plus sign.
def offset? : Text → Option Text
  | [] => some []
  | ['Z'] | ['z'] => some ['Z']
  | sign :: rest => do
    let (hours, rest) ← twoDigits? 0 23 rest
    match rest with
    | ':' :: rest =>
      let (minutes, rest) ← twoDigits? 0 59 rest
      let zero := Text.decimalValue (hours ++ minutes) = 0
      if rest.isEmpty && (sign = '+' || sign = '-') then
        some ((if zero then '+' else sign) :: hours ++ ':' :: minutes)
      else none
    | _ => none

def moment? (written : Text) : Option Text :=
  match date? written with
  | some (date, []) => some date
  | some (date, mark :: rest) => do
    let (time, rest) ← time? rest
    let offset ← offset? rest
    if mark = 'T' || mark = 't' || mark = ' ' then some (date ++ 'T' :: time ++ offset) else none
  | none =>
    match time? written with
    | some (time, []) => some time
    | _ => none

def scalar? (written : Text) : Option Toml :=
  if written = ['t', 'r', 'u', 'e'] then some (.boolean true)
  else if written = ['f', 'a', 'l', 's', 'e'] then some (.boolean false)
  else
    ((moment? written).map Toml.moment).or
      (((float? written).map Toml.float).or ((integer? written).map Toml.integer))

def readScalar (text : Text) : Option (Toml × Text) :=
  let first := text.takeWhile isScalarPart
  let rest := text.dropWhile isScalarPart
  let (written, rest) := match date? first, rest with
    | some (_, []), ' ' :: later =>
      if (later.head?).any Text.isAsciiDigit then
        (first ++ ' ' :: later.takeWhile isScalarPart, later.dropWhile isScalarPart)
      else (first, rest)
    | _, _ => (first, rest)
  (scalar? written).map fun value => (value, rest)

end Terminator.Toml
