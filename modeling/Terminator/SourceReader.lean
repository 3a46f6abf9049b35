import Terminator.Cursor
import Terminator.Span

set_option autoImplicit false

namespace Terminator

structure SourceReader where
  source : Text
  -- The whole source is visible where there is none.
  scope : Option (List Span)
  current : Nat
  position : Nat
  tokenStart : Nat
  marked : Option Nat
  deriving DecidableEq, Repr

namespace SourceReader

def spans (reader : SourceReader) : List Span :=
  reader.scope.getD []

def isConfined (reader : SourceReader) : Bool :=
  reader.scope.isSome

def startOf (source : Text) (spans : List Span) (index : Nat) : Nat :=
  match spans[index]? with
  | some span => span.start
  | none => source.byteLength

/-- The reader at an offset that is a code point boundary, with no token begun. An offset that
is not visible moves on to the next visible one. -/
def placeAt (reader : SourceReader) (offset : Nat) : SourceReader :=
  match reader.scope with
  | none => { reader with current := 0, position := offset, tokenStart := offset, marked := none }
  | some spans =>
    let current := spans.findIdx fun span => offset < span.stop
    let position := match spans[current]? with
      | some span => max offset span.start
      | none => reader.source.byteLength
    { reader with current, position, tokenStart := position, marked := none }

def whole (source : Text) : SourceReader :=
  { source, scope := none, current := 0, position := 0, tokenStart := 0, marked := none }

def confined (source : Text) (spans : List Span) : SourceReader :=
  let visible := Span.visible source spans
  { whole source with scope := some visible }.placeAt (startOf source visible 0)

def ofScope (source : Text) : Option (List Span) → SourceReader
  | none => whole source
  | some spans => confined source spans

def seek (reader : SourceReader) (offset : Nat) : SourceReader :=
  reader.placeAt (reader.source.floorBoundary offset)

def span? (reader : SourceReader) : Option Span :=
  reader.spans[reader.current]?

def peek (reader : SourceReader) : Option Char :=
  match reader.span? with
  | some span =>
    if reader.position < span.stop then reader.source.charAt reader.position else none
  | none => reader.source.charAt reader.position

def past (reader : SourceReader) (c : Char) : SourceReader :=
  let position := reader.position + c.utf8Size
  match reader.span? with
  | none => { reader with position }
  | some span =>
    if position < span.stop then
      { reader with position }
    else
      let current := reader.current + 1
      { reader with current, position := startOf reader.source reader.spans current }

def keep (reader : SourceReader) : SourceReader :=
  match reader.peek with
  | none => reader
  | some c => reader.past c

-- Without a code point to skip the token does not move either.
def skip (reader : SourceReader) : SourceReader :=
  match reader.peek with
  | none => reader
  | some c =>
    let next := reader.past c
    { next with tokenStart := next.position }

def mark (reader : SourceReader) : SourceReader :=
  { reader with marked := some reader.position }

def atRangeStart (reader : SourceReader) : Bool :=
  decide (0 < reader.current) && reader.span?.any fun span => span.start = reader.position

/-- The token since the last seek. It ends at the mark, or where the reader stands if nothing is
marked, and never starts behind its end. -/
def tokenSpan (reader : SourceReader) : Span :=
  let stop := reader.marked.getD reader.position
  { start := min reader.tokenStart stop, stop }

instance : Cursor SourceReader where
  peek := peek
  keep := keep
  skip := skip
  mark := mark
  atRangeStart := atRangeStart

/-- What is left to read. It counts whole sources for the spans that are still to come, since a
jump between spans may go backwards if the spans are not in order. -/
def remaining (reader : SourceReader) : Nat :=
  (reader.spans.length - reader.current) * (reader.source.byteLength + 1) +
    (reader.source.byteLength - reader.position)

theorem lt_byteLength_of_peek {reader : SourceReader} {c : Char} (ahead : reader.peek = some c) :
    reader.position < reader.source.byteLength := by
  unfold peek at ahead
  split at ahead
  next =>
    split at ahead
    next => exact Text.lt_byteLength_of_charAt ahead
    next => cases ahead
  next => exact Text.lt_byteLength_of_charAt ahead

theorem remaining_past_lt (reader : SourceReader) (c : Char) (ahead : reader.peek = some c) :
    (reader.past c).remaining < reader.remaining := by
  have inside := lt_byteLength_of_peek ahead
  have wide := c.utf8Size_pos
  cases found : reader.span? with
  | none =>
    simp only [past, found, remaining, spans]
    omega
  | some span =>
    have present : reader.current < (reader.scope.getD []).length :=
      (List.getElem?_eq_some_iff.mp found).1
    have shrinks : (reader.scope.getD []).length - reader.current =
        (reader.scope.getD []).length - (reader.current + 1) + 1 := by omega
    by_cases within : reader.position + c.utf8Size < span.stop
    next =>
      simp only [past, found, within, ↓reduceIte, remaining, spans]
      omega
    next =>
      simp only [past, found, within, ↓reduceIte, remaining, spans]
      rw [shrinks, Nat.add_mul]
      omega

theorem remaining_skip_lt (reader : SourceReader) (c : Char) (ahead : reader.peek = some c) :
    reader.skip.remaining < reader.remaining := by
  have shorter := remaining_past_lt reader c ahead
  simpa [skip, ahead, remaining, spans] using shorter

theorem blankRunWithin (reader : SourceReader) :
    Cursor.BlankRunWithin reader.remaining reader :=
  Cursor.blankRunWithin_of_measure remaining remaining_skip_lt (Nat.le_refl _)

end SourceReader

end Terminator
