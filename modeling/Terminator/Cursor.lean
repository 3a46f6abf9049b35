import Terminator.Text

set_option autoImplicit false

namespace Terminator

/-- A host's input, read forward one code point at a time. What is skipped is no part of the token,
and the token ends at the mark, wherever the cursor moves afterwards. -/
class Cursor (C : Type) where
  peek : C → Option Char
  keep : C → C
  skip : C → C
  mark : C → C
  -- Whether a stretch of input other than the first begins here.
  atRangeStart : C → Bool

namespace Cursor

variable {C : Type} [Cursor C]

def inlineBlank (c : Char) : Bool :=
  Text.isBlank c && !Text.isLineBreak c

def blankAhead (cursor : C) : Bool :=
  (peek cursor).any inlineBlank

/-- The run of inline blanks ahead of the cursor ends after so many of them at the latest. -/
def BlankRunWithin : Nat → C → Prop
  | 0, cursor => blankAhead cursor = false
  | bound + 1, cursor => blankAhead cursor = true → BlankRunWithin bound (skip cursor)

-- A quantity that every skip lowers bounds the run from every state.
theorem blankRunWithin_of_measure (size : C → Nat)
    (lowers : ∀ (cursor : C) (c : Char), peek cursor = some c → size (skip cursor) < size cursor)
    {bound : Nat} {cursor : C} (within : size cursor ≤ bound) : BlankRunWithin bound cursor := by
  induction bound generalizing cursor with
  | zero =>
    cases ahead : peek cursor with
    | none => simp [BlankRunWithin, blankAhead, ahead]
    | some c => exact absurd (lowers cursor c ahead) (by omega)
  | succ bound ih =>
    intro blank
    cases ahead : peek cursor with
    | none => simp [blankAhead, ahead] at blank
    | some c =>
      have lower := lowers cursor c ahead
      exact ih (by omega)

end Cursor

structure IndexedCursor where
  text : Text
  rangeStarts : List Nat
  place : Nat
  deriving DecidableEq, Repr

namespace IndexedCursor

def ofText (text : Text) (rangeStarts : List Nat) : IndexedCursor :=
  { text, rangeStarts, place := 0 }

def peek (cursor : IndexedCursor) : Option Char :=
  cursor.text[cursor.place]?

def forward (cursor : IndexedCursor) : IndexedCursor :=
  if cursor.place < cursor.text.length then { cursor with place := cursor.place + 1 } else cursor

instance : Cursor IndexedCursor where
  peek := peek
  keep := forward
  skip := forward
  mark cursor := cursor
  atRangeStart cursor := cursor.rangeStarts.contains cursor.place

def remaining (cursor : IndexedCursor) : Nat :=
  cursor.text.length - cursor.place

theorem remaining_skip_lt (cursor : IndexedCursor) (c : Char)
    (ahead : Cursor.peek cursor = some c) : (Cursor.skip cursor).remaining < cursor.remaining := by
  obtain ⟨inside, _⟩ := List.getElem?_eq_some_iff.mp ahead
  simp only [Cursor.skip, forward, remaining, inside, ↓reduceIte]
  omega

theorem blankRunWithin (cursor : IndexedCursor) :
    Cursor.BlankRunWithin cursor.remaining cursor :=
  Cursor.blankRunWithin_of_measure remaining remaining_skip_lt (Nat.le_refl _)

end IndexedCursor

end Terminator
