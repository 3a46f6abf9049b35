import Terminator.Text.Decimal

set_option autoImplicit false

namespace Terminator

structure Span where
  start : Nat
  stop : Nat
  deriving DecidableEq, Repr

namespace Span

/-- The span with both bounds moved into the text and outwards to whole code points. -/
def widen (text : Text) (span : Span) : Span :=
  { start := text.floorBoundary span.start, stop := text.ceilBoundary span.stop }

def joinInto : Span → List Span → List Span
  | last, [] => [last]
  | last, next :: rest =>
    if next.start ≤ last.stop then
      joinInto { last with stop := max last.stop next.stop } rest
    else
      last :: joinInto next rest

def join : List Span → List Span
  | [] => []
  | first :: rest => joinInto first rest

-- A span goes before those that start where it does, which keeps their order.
def insertByStart (span : Span) : List Span → List Span
  | [] => [span]
  | next :: rest =>
    if span.start ≤ next.start then span :: next :: rest else next :: insertByStart span rest

def sortByStart : List Span → List Span
  | [] => []
  | span :: rest => insertByStart span (sortByStart rest)

def visible (text : Text) (spans : List Span) : List Span :=
  join (sortByStart ((spans.map (widen text)).filter fun span => span.start < span.stop))

def splitAtDots : Text → Option (Text × Text)
  | '.' :: '.' :: rest => some ([], rest)
  | c :: rest => (splitAtDots rest).map fun (before, after) => (c :: before, after)
  | [] => none

def maxOffset : Nat := 0xFFFFFFFFFFFFFFFF

def readOffset? (written : Text) : Option Nat :=
  let digits := match written with
    | '+' :: digits => digits
    | digits => digits
  if Text.isDecimal digits && Text.decimalValue digits ≤ maxOffset then
    some (Text.decimalValue digits)
  else
    none

def ofText? (written : Text) : Option Span := do
  let (before, after) ← splitAtDots written
  let start ← readOffset? (Text.trim before)
  let stop ← readOffset? (Text.trim after)
  if start ≤ stop then some { start, stop } else none

def toText (span : Span) : Text :=
  Text.decimal span.start ++ ['.', '.'] ++ Text.decimal span.stop

def refusal (written : Text) : Text :=
  Text.of "invalid included range '" ++ written ++
    Text.of "': expected START..END with START <= END"

end Span

end Terminator
