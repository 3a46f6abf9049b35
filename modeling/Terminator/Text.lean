set_option autoImplicit false

namespace Terminator

/-- A text is its list of code points. Offsets into it count the bytes of its UTF-8 form. -/
abbrev Text := List Char

structure Place where
  line : Nat
  column : Nat
  deriving DecidableEq, Repr

namespace Text

-- It does not unfold by itself, since the characters of a literal are costly to compute in a proof.
@[irreducible] def of (literal : String) : Text :=
  literal.toList

def byteLength : Text → Nat
  | [] => 0
  | c :: rest => c.utf8Size + byteLength rest

def floorBoundary : Text → Nat → Nat
  | [], _ => 0
  | c :: rest, offset =>
    if offset < c.utf8Size then 0 else c.utf8Size + floorBoundary rest (offset - c.utf8Size)

def ceilBoundary : Text → Nat → Nat
  | [], _ => 0
  | c :: rest, offset =>
    if offset = 0 then 0 else c.utf8Size + ceilBoundary rest (offset - c.utf8Size)

def IsBoundary : Text → Nat → Prop
  | _, 0 => True
  | [], _ + 1 => False
  | c :: rest, offset => c.utf8Size ≤ offset ∧ IsBoundary rest (offset - c.utf8Size)

def takeBytes : Text → Nat → Text
  | [], _ => []
  | c :: rest, count => if count = 0 then [] else c :: takeBytes rest (count - c.utf8Size)

def dropBytes : Text → Nat → Text
  | [], _ => []
  | c :: rest, count => if count = 0 then c :: rest else dropBytes rest (count - c.utf8Size)

def slice (text : Text) (start stop : Nat) : Text :=
  (text.dropBytes start).takeBytes (stop - start)

def charAt (text : Text) (offset : Nat) : Option Char :=
  (text.dropBytes offset).head?

theorem takeBytes_append_dropBytes (text : Text) (count : Nat) :
    text.takeBytes count ++ text.dropBytes count = text := by
  induction text generalizing count with
  | nil => rfl
  | cons c rest ih =>
    by_cases zero : count = 0 <;> simp [takeBytes, dropBytes, zero, ih]

theorem byteLength_append (left right : Text) :
    byteLength (left ++ right) = byteLength left + byteLength right := by
  induction left with
  | nil => simp [byteLength]
  | cons c rest ih => simp [byteLength, ih, Nat.add_assoc]

theorem byteLength_takeBytes (text : Text) (count : Nat) :
    (text.takeBytes count).byteLength = text.ceilBoundary count := by
  induction text generalizing count with
  | nil => rfl
  | cons c rest ih =>
    by_cases zero : count = 0 <;> simp [takeBytes, ceilBoundary, byteLength, zero, ih]

theorem lt_byteLength_of_charAt {text : Text} {offset : Nat} {c : Char}
    (found : text.charAt offset = some c) : offset < text.byteLength := by
  induction text generalizing offset with
  | nil => simp [charAt, dropBytes] at found
  | cons head rest ih =>
    have wide := head.utf8Size_pos
    by_cases zero : offset = 0
    next => simp [byteLength, zero]; omega
    next =>
      simp only [charAt, dropBytes, zero, ↓reduceIte] at found
      have inner := ih found
      simp [byteLength]
      omega

def isLineBreak (c : Char) : Bool :=
  c = '\n' || c = '\u2028' || c = '\u2029'

def isBlank (c : Char) : Bool :=
  let code := c.toNat
  (0x09 ≤ code && code ≤ 0x0D) || code = 0x20 || code = 0x85 || code = 0xA0 || code = 0x1680 ||
    (0x2000 ≤ code && code ≤ 0x200A) || code = 0x2028 || code = 0x2029 || code = 0x202F ||
    code = 0x205F || code = 0x3000

def isAsciiDigit (c : Char) : Bool :=
  '0' ≤ c && c ≤ '9'

def isAsciiLetter (c : Char) : Bool :=
  ('a' ≤ c && c ≤ 'z') || ('A' ≤ c && c ≤ 'Z')

def trim (text : Text) : Text :=
  ((text.dropWhile isBlank).reverse.dropWhile isBlank).reverse

theorem isBlank_of_isLineBreak {c : Char} (broken : isLineBreak c = true) : isBlank c = true := by
  simp only [isLineBreak, Bool.or_eq_true, decide_eq_true_eq] at broken
  rcases broken with (rfl | rfl) | rfl <;> decide

def parts (mark : Char) : Text → List Text
  | [] => [[]]
  | c :: rest =>
    if c = mark then [] :: parts mark rest
    else
      match parts mark rest with
      | [] => [[c]]
      | part :: later => (c :: part) :: later

def startsAfterBreaks : Nat → Text → List Nat
  | _, [] => []
  | offset, c :: rest =>
    let next := offset + c.utf8Size
    if isLineBreak c then next :: startsAfterBreaks next rest else startsAfterBreaks next rest

def lineStarts (text : Text) : List Nat :=
  0 :: startsAfterBreaks 0 text

def firstLine (text : Text) : Text :=
  text.takeWhile fun c => !isLineBreak c

def place (text : Text) (offset : Nat) : Place :=
  let starts := text.lineStarts
  let line := starts.countP (· ≤ offset)
  { line, column := (text.slice (starts.getD (line - 1) 0) offset).length + 1 }

def line? (text : Text) : Nat → Option Text
  | 0 => none
  | index + 1 => (text.lineStarts[index]?).map fun start => firstLine (text.dropBytes start)

abbrev CodeRanges := List (Nat × Nat)

def CodeRanges.has : CodeRanges → Nat → Bool
  | [], _ => false
  | (first, last) :: rest, code =>
    if code < first then false else decide (code ≤ last) || CodeRanges.has rest code

end Text

end Terminator
