import Terminator.Cursor.Recorded
import Terminator.LineStart
import Terminator.SourceReader
import Terminator.TokenSet
import Terminator.Verdict

set_option autoImplicit false

namespace Terminator

variable {C : Type} [Cursor C]

def passBlanks : Nat → C → C
  | 0, cursor => cursor
  | bound + 1, cursor =>
    if Cursor.blankAhead cursor && !Cursor.atRangeStart cursor then
      passBlanks bound (Cursor.skip cursor)
    else cursor

-- A bound on the run of blanks is never felt.
theorem passBlanks_eq {first second : Nat} {cursor : C}
    (ends : Cursor.BlankRunWithin first cursor) (also : Cursor.BlankRunWithin second cursor) :
    passBlanks first cursor = passBlanks second cursor := by
  induction first generalizing second cursor with
  | zero => cases second <;> simp_all [passBlanks, Cursor.BlankRunWithin]
  | succ first ih =>
    cases second with
    | zero => simp_all [passBlanks, Cursor.BlankRunWithin]
    | succ second =>
      by_cases here : Cursor.blankAhead cursor = true
      next => simp [passBlanks, ih (ends here) (also here)]
      next => simp [passBlanks, here]

def settledOnLine (cursor : C) : Option Reason :=
  match Cursor.peek cursor with
  | none => some .endOfInput
  | some c =>
    -- The order matters: a closing brace at a range start is a closing brace.
    if c = '}' then some .closingBrace
    else if Cursor.atRangeStart cursor then some .rangeBoundary
    else if Text.isLineBreak c then none
    else some .sameLine

def nextLine (cursor : C) : Reason × C :=
  match LineStart.ofChar? (Cursor.peek cursor) with
  | .statement => (.newStatement, cursor)
  | .continuation => (.continuation, cursor)
  | .dot =>
    let cursor := Cursor.skip cursor
    (if (Cursor.peek cursor).any Text.isAsciiDigit then .decimalLiteral else .memberAccess, cursor)
  | .plus =>
    let cursor := Cursor.skip cursor
    (if Cursor.peek cursor = some '+' then .increment else .unaryPlus, cursor)
  | .minus =>
    let cursor := Cursor.skip cursor
    (if Cursor.peek cursor = some '-' then .decrement else .unaryMinus, cursor)
  | .bang =>
    let cursor := Cursor.skip cursor
    (if Cursor.peek cursor = some '=' then .notEqual else .logicalNot, cursor)
  | .wordWithI =>
    match BinaryWord.read cursor with
    | (.inOperator, cursor) => (.inKeyword, cursor)
    | (.instanceofOperator, cursor) => (.instanceofKeyword, cursor)
    | (.otherWord, cursor) => (.identifier, cursor)

/-- Decides whether an automatic semicolon goes where the cursor stands. Its end is marked before
anything is read, and all that is read afterwards is trivia. -/
def evaluate (accepted : TokenSet) (bound : Nat) (cursor : C)
    (_ends : Cursor.BlankRunWithin bound (Cursor.mark cursor)) : Verdict × C :=
  if accepted.contains .automaticSemicolon then
    let cursor := passBlanks bound (Cursor.mark cursor)
    match settledOnLine cursor with
    | some reason => (.ofReason reason, cursor)
    | none =>
      let (reason, cursor) := nextLine (Cursor.skip cursor)
      (.ofReason reason, cursor)
  else
    (.ofReason .notAccepted, cursor)

def IndexedCursor.evaluate (accepted : TokenSet) (cursor : IndexedCursor) :
    Verdict × IndexedCursor :=
  Terminator.evaluate accepted _ cursor (IndexedCursor.blankRunWithin _)

def SourceReader.evaluate (accepted : TokenSet) (reader : SourceReader) : Verdict × SourceReader :=
  Terminator.evaluate accepted _ reader (SourceReader.blankRunWithin _)

def Recorded.evaluate (accepted : TokenSet) (bound : Nat) (recorded : Recorded C)
    (ends : Cursor.BlankRunWithin bound (Cursor.mark recorded.inner)) : Verdict × Recorded C :=
  Terminator.evaluate accepted bound recorded (Recorded.blankRunWithin ends)

-- Nothing is remembered from one call to the next, so every scanner state is the same.
structure Scanner where
  deriving DecidableEq, Repr

namespace Scanner

def create : Scanner := {}

def serialize (_ : Scanner) (buffer : List UInt8) : Nat × List UInt8 :=
  (0, buffer)

def deserialize (_ : Scanner) (_ : List UInt8) : Scanner :=
  create

def scan (_ : Scanner) (accepted : TokenSet) (reader : SourceReader) : Bool × SourceReader :=
  let (verdict, reader) := reader.evaluate accepted
  (verdict.isInsert, reader)

end Scanner

end Terminator
