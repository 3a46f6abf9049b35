import Mathlib.Logic.Function.Iterate
import Terminator.Expectation
import Terminator.Proofs.DecisionPolicy

set_option autoImplicit false

namespace Terminator

open Cursor

variable {C D : Type} [Cursor C] [Cursor D]

-- Once it is marked a host is moved by skipping alone, so nothing is asked of the other ways.
structure Cursor.Simulation (related : C → D → Prop) : Prop where
  peek : ∀ cursor other, related cursor other → peek cursor = peek other
  atRangeStart : ∀ cursor other, related cursor other → atRangeStart cursor = atRangeStart other
  skip : ∀ cursor other, related cursor other → related (skip cursor) (skip other)

namespace Cursor.Simulation

variable {related : C → D → Prop} {cursor : C} {other : D}

theorem blankAhead_eq (simulation : Simulation related) (here : related cursor other) :
    blankAhead cursor = blankAhead other := by
  rw [blankAhead, blankAhead, simulation.peek cursor other here]

theorem blankRunWithin_of_related (simulation : Simulation related) {bound : Nat}
    (here : related cursor other) (ends : BlankRunWithin bound cursor) :
    BlankRunWithin bound other := by
  induction bound generalizing cursor other with
  | zero => exact (simulation.blankAhead_eq here).symm.trans ends
  | succ bound ih =>
    intro blank
    apply ih (simulation.skip cursor other here)
    exact ends ((simulation.blankAhead_eq here).trans blank)

theorem related_passBlanks (simulation : Simulation related) (bound : Nat)
    (here : related cursor other) :
    related (passBlanks bound cursor) (passBlanks bound other) := by
  induction bound generalizing cursor other with
  | zero => exact here
  | succ bound ih =>
    rw [passBlanks, passBlanks, simulation.blankAhead_eq here,
      simulation.atRangeStart cursor other here]
    split
    next => exact ih (simulation.skip cursor other here)
    next => exact here

theorem settledOnLine_eq (simulation : Simulation related) (here : related cursor other) :
    settledOnLine cursor = settledOnLine other := by
  rw [settledOnLine, settledOnLine, simulation.peek cursor other here,
    simulation.atRangeStart cursor other here]

theorem wordGoesOn_eq (simulation : Simulation related) (here : related cursor other) :
    BinaryWord.wordGoesOn cursor = BinaryWord.wordGoesOn other := by
  rw [BinaryWord.wordGoesOn, BinaryWord.wordGoesOn, simulation.peek cursor other here]

theorem related_skipLetters (simulation : Simulation related) (letters : List Char)
    (here : related cursor other) :
    (BinaryWord.skipLetters letters cursor).1 = (BinaryWord.skipLetters letters other).1 ∧
      related (BinaryWord.skipLetters letters cursor).2
        (BinaryWord.skipLetters letters other).2 := by
  induction letters generalizing cursor other with
  | nil => exact ⟨rfl, here⟩
  | cons letter rest ih =>
    rw [BinaryWord.skipLetters, BinaryWord.skipLetters, simulation.peek cursor other here]
    split
    next => exact ih (simulation.skip cursor other here)
    next => exact ⟨rfl, here⟩

theorem related_read (simulation : Simulation related) (here : related cursor other) :
    (BinaryWord.read cursor).1 = (BinaryWord.read other).1 ∧
      related (BinaryWord.read cursor).2 (BinaryWord.read other).2 := by
  have second := simulation.skip cursor other here
  have third := simulation.skip _ _ second
  have letters := simulation.related_skipLetters ['s', 't', 'a', 'n', 'c', 'e', 'o', 'f'] third
  simp only [BinaryWord.read, simulation.peek _ _ second, simulation.wordGoesOn_eq third]
  split
  next =>
    split
    next =>
      generalize BinaryWord.skipLetters _ (Cursor.skip (Cursor.skip cursor)) = answer at letters ⊢
      generalize BinaryWord.skipLetters _ (Cursor.skip (Cursor.skip other)) = answer' at letters ⊢
      obtain ⟨complete, later⟩ := answer
      obtain ⟨complete', later'⟩ := answer'
      obtain ⟨rfl, last⟩ := letters
      cases complete with
      | true => exact ⟨by simp only [simulation.wordGoesOn_eq last], last⟩
      | false => exact ⟨rfl, last⟩
    next => exact ⟨rfl, third⟩
  next => exact ⟨rfl, second⟩

theorem related_nextLine (simulation : Simulation related) (here : related cursor other) :
    (nextLine cursor).1 = (nextLine other).1 ∧
      related (nextLine cursor).2 (nextLine other).2 := by
  have second := simulation.skip cursor other here
  have word := simulation.related_read here
  simp only [nextLine, simulation.peek cursor other here, simulation.peek _ _ second]
  cases LineStart.ofChar? (Cursor.peek other) with
  | statement => exact ⟨rfl, here⟩
  | continuation => exact ⟨rfl, here⟩
  | dot => exact ⟨rfl, second⟩
  | plus => exact ⟨rfl, second⟩
  | minus => exact ⟨rfl, second⟩
  | bang => exact ⟨rfl, second⟩
  | wordWithI =>
    generalize BinaryWord.read cursor = answer at word ⊢
    generalize BinaryWord.read other = answer' at word ⊢
    obtain ⟨kind, later⟩ := answer
    obtain ⟨kind', later'⟩ := answer'
    obtain ⟨rfl, last⟩ := word
    cases kind <;> exact ⟨rfl, last⟩

-- Each host has a bound of its own, which neither of them feels.
theorem related_evaluate (simulation : Simulation related) {accepted : TokenSet}
    (wanted : accepted.contains .automaticSemicolon = true) {bound bound' : Nat}
    (marked : related (mark cursor) (mark other)) (ends : BlankRunWithin bound (mark cursor))
    (ends' : BlankRunWithin bound' (mark other)) :
    (evaluate accepted bound cursor ends).1 = (evaluate accepted bound' other ends').1 ∧
      related (evaluate accepted bound cursor ends).2 (evaluate accepted bound' other ends').2 := by
  have sameRun := passBlanks_eq ends' (simulation.blankRunWithin_of_related marked ends)
  have passed := simulation.related_passBlanks bound marked
  have line := simulation.related_nextLine (simulation.skip _ _ passed)
  simp only [evaluate, wanted, if_true, sameRun, simulation.settledOnLine_eq passed]
  cases settledOnLine (passBlanks bound (mark other)) with
  | some reason => exact ⟨rfl, passed⟩
  | none => exact ⟨congrArg Verdict.ofReason line.1, line.2⟩

end Cursor.Simulation

namespace Recorded

-- The relation between a recorded host and the host itself, seen from where both were marked.
def SkippedFrom (start : C) (recorded : Recorded C) (cursor : C) : Prop :=
  recorded.inner = cursor ∧ recorded.Tallied ∧ ∃ count, cursor = skip^[count] start ∧
    recorded.calls = .mark :: List.replicate count .skip

theorem simulation_skippedFrom (start : C) : Simulation (SkippedFrom start) where
  peek recorded cursor here := by
    obtain ⟨rfl, _⟩ := here
    rfl
  atRangeStart recorded cursor here := by
    obtain ⟨rfl, _⟩ := here
    rfl
  skip recorded cursor here := by
    obtain ⟨rfl, tallied, count, moved, calls⟩ := here
    have later := calls_record recorded .skip (skip recorded.inner)
    rw [calls, List.cons_append, ← List.replicate_succ'] at later
    exact ⟨rfl, tallied_record tallied .skip _, count + 1,
      by rw [Function.iterate_succ_apply', ← moved], later⟩

variable {accepted : TokenSet} {bound : Nat} {cursor : C}

theorem skippedFrom_evaluate (wanted : accepted.contains .automaticSemicolon = true)
    (ends : BlankRunWithin bound (mark cursor)) :
    ((start cursor).evaluate accepted bound ends).1 =
        (Terminator.evaluate accepted bound cursor ends).1 ∧
      SkippedFrom (mark cursor) ((start cursor).evaluate accepted bound ends).2
        (Terminator.evaluate accepted bound cursor ends).2 := by
  have marked : SkippedFrom (mark cursor) (mark (start cursor)) (mark cursor) :=
    ⟨rfl, tallied_record (tallied_start cursor) .mark _, 0, rfl, rfl⟩
  exact (simulation_skippedFrom (mark cursor)).related_evaluate wanted marked _ ends

theorem evaluate_refused (refused : accepted.contains .automaticSemicolon = false)
    (ends : BlankRunWithin bound (mark cursor)) :
    (start cursor).evaluate accepted bound ends =
      (Verdict.ofReason .notAccepted, start cursor) :=
  evaluate_of_refused refused _

end Recorded

theorem Trial.isOrderly_run (accepted : TokenSet) (text : Text) :
    (run accepted text).isOrderly = true := by
  have ends := SourceReader.blankRunWithin (SourceReader.whole text).mark
  cases wanted : accepted.contains .automaticSemicolon with
  | true =>
    obtain ⟨_, _, tallied, count, _, calls⟩ := Recorded.skippedFrom_evaluate wanted ends
    have tallied : (run accepted text).recorded.Tallied := tallied
    have calls : (run accepted text).recorded.calls = .mark :: List.replicate count .skip := calls
    simp [isOrderly, tallied .keep, tallied .mark, calls, List.count_replicate]
  | false =>
    have answer := Recorded.evaluate_refused wanted ends
    have verdict : (run accepted text).verdict = Verdict.ofReason .notAccepted :=
      congrArg Prod.fst answer
    have recorded : (run accepted text).recorded = Recorded.start (SourceReader.whole text) :=
      congrArg Prod.snd answer
    rw [isOrderly, verdict, recorded]
    rfl

namespace Recorded

/-- Whatever the host, an evaluation makes no call to it, or one mark and then nothing but skips.
Neither the verdict nor the host is another one when the calls are recorded. -/
theorem evaluate_marks_then_skips (accepted : TokenSet) (bound : Nat) (cursor : C)
    (ends : BlankRunWithin bound (mark cursor)) :
    let direct := Terminator.evaluate accepted bound cursor ends
    let recorded := (start cursor).evaluate accepted bound ends
    recorded.1 = direct.1 ∧ recorded.2.inner = direct.2 ∧
      (accepted.contains .automaticSemicolon = false →
        recorded.2.calls = [] ∧ direct.2 = cursor) ∧
      (accepted.contains .automaticSemicolon = true → ∃ count,
        recorded.2.calls = .mark :: List.replicate count .skip ∧
          direct.2 = skip^[count] (mark cursor)) ∧
      (∀ call, recorded.2.count call = recorded.2.calls.count call) ∧
      ∀ kinds text, (Trial.run kinds text).isOrderly = true := by
  intro direct recorded
  cases wanted : accepted.contains .automaticSemicolon with
  | true =>
    obtain ⟨verdict, inner, tallied, count, moved, calls⟩ := skippedFrom_evaluate wanted ends
    exact ⟨verdict, inner, by simp, fun _ => ⟨count, calls, moved⟩, tallied, Trial.isOrderly_run⟩
  | false =>
    have still : direct = (Verdict.ofReason .notAccepted, cursor) := evaluate_of_refused wanted ends
    have silent : recorded = (Verdict.ofReason .notAccepted, start cursor) :=
      evaluate_refused wanted ends
    rw [still, silent]
    exact ⟨rfl, rfl, fun _ => ⟨rfl, rfl⟩, by simp, tallied_start cursor, Trial.isOrderly_run⟩

theorem calls_before_increment :
    let cursor := IndexedCursor.ofText [' ', '\n', '+', '+'] []
    let accepted := TokenSet.singleton .automaticSemicolon
    ∃ ends : BlankRunWithin 1 (mark cursor),
      let direct := Terminator.evaluate accepted 1 cursor ends
      let recorded := (start cursor).evaluate accepted 1 ends
      recorded.1 = direct.1 ∧ direct.1 = Verdict.ofReason .increment ∧
        ∃ count, recorded.2.calls = .mark :: List.replicate count .skip ∧
          direct.2 = skip^[count] (mark cursor) := by
  intro cursor accepted
  have ends : BlankRunWithin 1 (mark cursor) := fun _ => rfl
  obtain ⟨verdict, _, _, calls, _⟩ := evaluate_marks_then_skips accepted 1 cursor ends
  exact ⟨ends, verdict, rfl, calls rfl⟩

end Recorded

end Terminator
