import Terminator.Scanner
import Terminator.Span
import Terminator.Text.Quoted

set_option autoImplicit false

namespace Terminator

structure Trial where
  text : Text
  verdict : Verdict
  recorded : Recorded SourceReader

namespace Trial

def run (accepted : TokenSet) (text : Text) : Trial :=
  let recorded := Recorded.start (SourceReader.whole text)
  let (verdict, recorded) := recorded.evaluate accepted _ (SourceReader.blankRunWithin _)
  { text, verdict, recorded }

def reader (trial : Trial) : SourceReader :=
  trial.recorded.inner

def isOrderly (trial : Trial) : Bool :=
  trial.recorded.count .keep = 0 && (!trial.verdict.isInsert || trial.recorded.count .mark = 1)

end Trial

def insertsAtStart (text : Text) : Bool :=
  (Trial.run .all text).verdict.isInsert

inductive Expectation where
  | inserts
  | rejects
  | because (reason : Reason)
  | tokenAt (offset : Nat)
  | consumed (offset : Nat)
  deriving DecidableEq, Repr

namespace Expectation

structure Failure where
  complaint : Text
  found : Text
  expected : Text
  deriving DecidableEq, Repr

def Failure.message (failure : Failure) : Text :=
  Text.of "assertion `left == right` failed: " ++ failure.complaint ++
    Text.of "\n  left: " ++ failure.found ++ Text.of "\n right: " ++ failure.expected

def decisionFailure (trial : Trial) (expected : Decision) : Failure where
  complaint := Text.of "expected " ++ Text.of expected.name ++ Text.of " for " ++
    Text.quoted trial.text ++ Text.of ", got " ++ trial.verdict.describe
  found := Text.of trial.verdict.decision.variant
  expected := Text.of expected.variant

def failure? (trial : Trial) : Expectation → Option Failure
  | .inserts =>
    if trial.verdict.decision = .insert then none else some (decisionFailure trial .insert)
  | .rejects =>
    if trial.verdict.decision = .reject then none else some (decisionFailure trial .reject)
  | .because reason =>
    if trial.verdict.reason = reason then none
    else some
      { complaint := Text.of "wrong reason for " ++ Text.quoted trial.text
        found := Text.of trial.verdict.reason.variant
        expected := Text.of reason.variant }
  | .tokenAt offset =>
    let span : Span := ⟨offset, offset⟩
    if trial.reader.tokenSpan = span then none
    else some
      { complaint := Text.of "wrong token span for " ++ Text.quoted trial.text
        found := trial.reader.tokenSpan.toText
        expected := span.toText }
  | .consumed offset =>
    if trial.reader.position = offset then none
    else some
      { complaint := Text.of "wrong read position for " ++ Text.quoted trial.text
        found := Text.decimal trial.reader.position
        expected := Text.decimal offset }

def firstFailure? (trial : Trial) : List Expectation → Option (Nat × Failure)
  | [] => none
  | expectation :: rest =>
    match expectation.failure? trial with
    | some failure => some (0, failure)
    | none => (firstFailure? trial rest).map fun (place, failure) => (place + 1, failure)

end Expectation

end Terminator
