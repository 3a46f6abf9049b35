import Terminator.Cursor

set_option autoImplicit false

namespace Terminator

inductive CursorCall where
  | mark
  | skip
  | keep
  deriving DecidableEq, Repr

-- The history is there for those who ask where a call was made: each is kept with the cursor as it
-- was before, the latest call first.
structure Recorded (C : Type) where
  inner : C
  marks : Nat
  skips : Nat
  keeps : Nat
  history : List (CursorCall × C)

namespace Recorded

variable {C : Type}

def start (cursor : C) : Recorded C :=
  { inner := cursor, marks := 0, skips := 0, keeps := 0, history := [] }

def record (recorded : Recorded C) (call : CursorCall) (next : C) : Recorded C :=
  let later :=
    { recorded with inner := next, history := (call, recorded.inner) :: recorded.history }
  match call with
  | .mark => { later with marks := recorded.marks + 1 }
  | .skip => { later with skips := recorded.skips + 1 }
  | .keep => { later with keeps := recorded.keeps + 1 }

def calls (recorded : Recorded C) : List CursorCall :=
  (recorded.history.map Prod.fst).reverse

def count (recorded : Recorded C) : CursorCall → Nat
  | .mark => recorded.marks
  | .skip => recorded.skips
  | .keep => recorded.keeps

def Tallied (recorded : Recorded C) : Prop :=
  ∀ call, recorded.count call = recorded.calls.count call

theorem calls_record (recorded : Recorded C) (call : CursorCall) (next : C) :
    (recorded.record call next).calls = recorded.calls ++ [call] := by
  cases call <;> simp [calls, record]

theorem count_record (recorded : Recorded C) (call other : CursorCall) (next : C) :
    (recorded.record call next).count other =
      recorded.count other + if call = other then 1 else 0 := by
  cases call <;> cases other <;> rfl

theorem tallied_start (cursor : C) : (start cursor).Tallied := by
  intro call
  cases call <;> rfl

theorem tallied_record {recorded : Recorded C} (tallied : recorded.Tallied) (call : CursorCall)
    (next : C) : (recorded.record call next).Tallied := by
  intro other
  rw [count_record, calls_record, List.count_append, tallied other]
  cases call <;> cases other <;> rfl

variable [Cursor C]

instance : Cursor (Recorded C) where
  peek recorded := Cursor.peek recorded.inner
  keep recorded := recorded.record .keep (Cursor.keep recorded.inner)
  skip recorded := recorded.record .skip (Cursor.skip recorded.inner)
  mark recorded := recorded.record .mark (Cursor.mark recorded.inner)
  atRangeStart recorded := Cursor.atRangeStart recorded.inner

-- Recording changes nothing that the run of blanks depends on.
theorem blankRunWithin {bound : Nat} {recorded : Recorded C}
    (ends : Cursor.BlankRunWithin bound recorded.inner) :
    Cursor.BlankRunWithin bound recorded := by
  induction bound generalizing recorded with
  | zero => exact ends
  | succ bound ih => exact fun blank => ih (ends blank)

end Recorded

end Terminator
