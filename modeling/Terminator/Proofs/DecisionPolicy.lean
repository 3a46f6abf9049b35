import Terminator.Scanner
import Terminator.Proofs.BinaryWords

set_option autoImplicit false

namespace Terminator

open Cursor

variable {C : Type} [Cursor C]

namespace Policy

def settles (point : Char × Bool) : Bool :=
  point.1 = '}' || point.2 || !Text.isBlank point.1 || Text.isLineBreak point.1

def operatorMarks : Text := "`,:;*%><=[(?^|&/".toList

def wordReason (word : Text) : Reason :=
  if word = "in".toList then .inKeyword
  else if word = "instanceof".toList then .instanceofKeyword
  else .identifier

def lineReason : Text → Reason
  | '.' :: rest => if (rest.head?).any Text.isAsciiDigit then .decimalLiteral else .memberAccess
  | '+' :: rest => if rest.head? = some '+' then .increment else .unaryPlus
  | '-' :: rest => if rest.head? = some '-' then .decrement else .unaryMinus
  | '!' :: rest => if rest.head? = some '=' then .notEqual else .logicalNot
  | 'i' :: rest => wordReason (('i' :: rest).takeWhile Text.isAlphabetic)
  | c :: _ => if c ∈ operatorMarks then .continuation else .newStatement
  | [] => .newStatement

def lineReach : Text → Nat
  | '.' :: _ => 1
  | '+' :: _ => 1
  | '-' :: _ => 1
  | '!' :: _ => 1
  | 'i' :: rest => BinaryWord.instanceofWord.agreement ('i' :: rest)
  | _ => 0

/-- The reason for what goes where a view begins, if a semicolon is accepted there. -/
def reason (view : View) : Reason :=
  let place := view.findIdx settles
  match view[place]? with
  | none => .endOfInput
  | some (c, begins) =>
    if c = '}' then .closingBrace
    else if begins then .rangeBoundary
    else if Text.isLineBreak c then lineReason (View.text (view.drop (place + 1)))
    else .sameLine

def reach (view : View) : Nat :=
  let place := view.findIdx settles
  match view[place]? with
  | none => place
  | some (c, begins) =>
    if c ≠ '}' ∧ begins = false ∧ Text.isLineBreak c = true then
      place + 1 + lineReach (View.text (view.drop (place + 1)))
    else place

theorem settles_eq_false_iff (c : Char) (begins : Bool) :
    settles (c, begins) = false ↔ inlineBlank c = true ∧ begins = false := by
  by_cases brace : c = '}'
  next =>
    have solid : Text.isBlank '}' = false := by decide
    simp [settles, inlineBlank, brace, solid]
  next => simp [settles, inlineBlank, brace, and_comm, and_assoc]

theorem wordReason_eq (word : Text) :
    wordReason word =
      match BinaryWord.ofWord word with
      | .inOperator => .inKeyword
      | .instanceofOperator => .instanceofKeyword
      | .otherWord => .identifier := by
  have short : "in".toList = BinaryWord.inWord := by decide
  have long : "instanceof".toList = BinaryWord.instanceofWord := by decide
  rw [wordReason, BinaryWord.ofWord, short, long]
  have apart : BinaryWord.instanceofWord ≠ BinaryWord.inWord := by decide
  by_cases first : word = BinaryWord.inWord
  · simp [first]
  · by_cases second : word = BinaryWord.instanceofWord <;> simp [first, second, apart]

theorem operatorMarks_eq : operatorMarks = LineStart.continuationMarks := by
  decide

theorem lineReason_of_plain {c : Char} (plain : c ∉ ['.', '+', '-', '!', 'i']) (rest : Text) :
    lineReason (c :: rest) = if c ∈ operatorMarks then .continuation else .newStatement := by
  simp only [List.mem_cons, List.not_mem_nil, or_false, not_or] at plain
  simp [lineReason, plain]

theorem lineReach_of_plain {c : Char} (plain : c ∉ ['.', '+', '-', '!', 'i']) (rest : Text) :
    lineReach (c :: rest) = 0 := by
  simp only [List.mem_cons, List.not_mem_nil, or_false, not_or] at plain
  simp [lineReach, plain]

theorem ofChar?_of_plain {c : Char} (plain : c ∉ ['.', '+', '-', '!', 'i']) :
    LineStart.ofChar? (some c) = if c ∈ operatorMarks then .continuation else .statement := by
  simp only [List.mem_cons, List.not_mem_nil, or_false, not_or] at plain
  simp [LineStart.ofChar?, operatorMarks_eq, plain]

end Policy

theorem passBlanks_stop {bound : Nat} {cursor : C}
    (stops : (blankAhead cursor && !atRangeStart cursor) = false) :
    passBlanks bound cursor = cursor := by
  cases bound with
  | zero => rfl
  | succ bound => simp [passBlanks, stops]

theorem passBlanks_of_shows {bound : Nat} {view : View} {cursor : C}
    (ends : BlankRunWithin bound cursor) (shows : Shows view cursor) :
    passBlanks bound cursor = skip^[view.findIdx Policy.settles] cursor := by
  induction view generalizing bound cursor with
  | nil =>
    have nothing : peek cursor = none := shows
    exact passBlanks_stop (by simp [blankAhead, nothing])
  | cons point rest ih =>
    obtain ⟨ahead, start, later⟩ := shows
    have blank : blankAhead cursor = inlineBlank point.1 := by simp [blankAhead, ahead]
    by_cases settled : Policy.settles point = true
    next =>
      have stops : (blankAhead cursor && !atRangeStart cursor) = false := by
        have not := (Policy.settles_eq_false_iff point.1 point.2).not.mp (by simpa using settled)
        rw [blank, start]
        simpa using not
      simp [passBlanks_stop stops, List.findIdx_cons, settled]
    next =>
      obtain ⟨inline, inside⟩ :=
        (Policy.settles_eq_false_iff point.1 point.2).mp (by simpa using settled)
      have here : blankAhead cursor = true := blank.trans inline
      cases bound with
      | zero => exact absurd ends (by simp [BlankRunWithin, here])
      | succ bound =>
        simp [passBlanks, here, start, inside, ih (ends here) later, List.findIdx_cons, settled]

theorem nextLine_of_shows {view : View} {cursor : C} (shows : Shows view cursor) :
    nextLine cursor =
      (Policy.lineReason view.text, skip^[Policy.lineReach view.text] cursor) := by
  have ahead := peek_of_shows shows
  cases view with
  | nil => simp [nextLine, ahead, LineStart.ofChar?, Policy.lineReason, Policy.lineReach]
  | cons point rest =>
    obtain ⟨c, begins⟩ := point
    have second := peek_of_shows shows.2.2
    by_cases special : c ∈ ['.', '+', '-', '!', 'i']
    next =>
      simp only [List.mem_cons, List.not_mem_nil, or_false] at special
      rcases special with rfl | rfl | rfl | rfl | rfl
      case inr.inr.inr.inr =>
        have word := BinaryWord.read_of_shows shows (View.text_cons ('i', begins) rest)
        have start : LineStart.ofChar? (some 'i') = .wordWithI := by decide
        rw [nextLine, ahead, View.text_cons, List.head?_cons, start]
        simp only [word, View.text_cons, Policy.lineReason, Policy.lineReach, Policy.wordReason_eq]
        cases BinaryWord.ofWord (('i' :: View.text rest).takeWhile Text.isAlphabetic) <;> rfl
      all_goals
        simp [nextLine, ahead, second, LineStart.ofChar?, LineStart.continuationMarks,
          Policy.lineReason, Policy.lineReach]
    next =>
      rw [View.text_cons, Policy.lineReason_of_plain special, Policy.lineReach_of_plain special,
        nextLine, ahead, View.text_cons, List.head?_cons, Policy.ofChar?_of_plain special]
      by_cases mark : c ∈ Policy.operatorMarks <;> simp [mark]

theorem settledOnLine_of_shows {view : View} {cursor : C} (shows : Shows view cursor) :
    settledOnLine cursor =
      match view.head? with
      | none => some .endOfInput
      | some (c, begins) =>
        if c = '}' then some .closingBrace
        else if begins then some .rangeBoundary
        else if Text.isLineBreak c then none
        else some .sameLine := by
  cases view with
  | nil =>
    have nothing : peek cursor = none := shows
    simp [settledOnLine, nothing]
  | cons point rest =>
    obtain ⟨ahead, start, later⟩ := shows
    simp [settledOnLine, ahead, start]

theorem evaluate_of_shows {accepted : TokenSet} (wanted : accepted.contains .automaticSemicolon = true)
    {bound : Nat} {view : View} {cursor : C} (ends : BlankRunWithin bound (mark cursor))
    (shows : Shows view (mark cursor)) :
    evaluate accepted bound cursor ends =
      (Verdict.ofReason (Policy.reason view), skip^[Policy.reach view] (mark cursor)) := by
  have reached := shows_iterate_skip shows (List.findIdx_le_length (p := Policy.settles))
  unfold evaluate
  rw [if_pos wanted, passBlanks_of_shows ends shows]
  simp only [settledOnLine_of_shows reached, List.head?_drop, Policy.reason, Policy.reach]
  cases here : view[view.findIdx Policy.settles]? with
  | none => rfl
  | some point =>
    obtain ⟨c, begins⟩ := point
    by_cases brace : c = '}'
    next => simp [brace]
    next =>
      by_cases boundary : begins = true
      next => simp [brace, boundary]
      next =>
        by_cases broken : Text.isLineBreak c = true
        next =>
          have inside : view.findIdx Policy.settles + 1 ≤ view.length :=
            (List.getElem?_eq_some_iff.mp here).1
          have line := nextLine_of_shows (shows_iterate_skip shows inside)
          rw [Function.iterate_succ_apply'] at line
          simp [brace, boundary, broken, line]
          rw [Nat.add_comm _ (Policy.lineReach _), Function.iterate_add_apply,
            Function.iterate_succ_apply']
        next => simp [brace, boundary, broken]

theorem evaluate_of_refused {accepted : TokenSet}
    (refused : accepted.contains .automaticSemicolon = false) {bound : Nat} {cursor : C}
    (ends : BlankRunWithin bound (mark cursor)) :
    evaluate accepted bound cursor ends = (Verdict.ofReason .notAccepted, cursor) := by
  simp [evaluate, refused]

theorem IndexedCursor.evaluate_eq {accepted : TokenSet}
    (wanted : accepted.contains .automaticSemicolon = true) (cursor : IndexedCursor) :
    cursor.evaluate accepted =
      (Verdict.ofReason (Policy.reason cursor.view), skip^[Policy.reach cursor.view] cursor) :=
  evaluate_of_shows wanted _ (shows_view cursor)

theorem Policy.lineReason_ne_notAccepted (text : Text) : lineReason text ≠ .notAccepted := by
  unfold lineReason wordReason
  repeat' split
  all_goals simp

theorem Policy.reason_ne_notAccepted (view : View) : reason view ≠ .notAccepted := by
  simp only [reason]
  split
  next => simp
  next c begins _ =>
    by_cases brace : c = '}'
    next => simp [brace]
    next =>
      cases begins
      case true => simp [brace]
      case false =>
        by_cases broken : Text.isLineBreak c = true
        next => simpa [brace, broken] using lineReason_ne_notAccepted _
        next => simp [brace, broken]

/-- An evaluation at the start of a view answers as the policy says, for every view and every
flag array of a host. -/
theorem evaluate_follows_policy (view : View) (flags : List Bool) :
    let verdict := ((IndexedCursor.ofView view).evaluate (TokenSet.ofFlags flags)).1
    verdict = Verdict.ofReason
        (if flags[0]? = some true then Policy.reason view else .notAccepted) ∧
      (verdict.reason = .notAccepted ↔ flags[0]? = none ∨ flags[0]? = some false) ∧
      (verdict.isInsert = true ↔
        verdict.reason ∈ [.endOfInput, .closingBrace, .rangeBoundary, .memberAccess, .unaryPlus,
          .unaryMinus, .notEqual, .identifier, .newStatement]) := by
  have shows := IndexedCursor.shows_view (IndexedCursor.ofView view)
  rw [IndexedCursor.view_ofView] at shows
  have marked : Shows view (mark (IndexedCursor.ofView view)) := shows
  have flag : (TokenSet.ofFlags flags).contains .automaticSemicolon = flags.getD 0 false :=
    TokenSet.contains_ofFlags flags .automaticSemicolon
  have decided : ((IndexedCursor.ofView view).evaluate (TokenSet.ofFlags flags)).1 =
      Verdict.ofReason (if flags[0]? = some true then Policy.reason view else .notAccepted) := by
    by_cases wanted : flags[0]? = some true
    next =>
      have member : (TokenSet.ofFlags flags).contains .automaticSemicolon = true := by
        simp [flag, List.getD_eq_getElem?_getD, wanted]
      rw [IndexedCursor.evaluate, evaluate_of_shows member _ marked, if_pos wanted]
    next =>
      have member : (TokenSet.ofFlags flags).contains .automaticSemicolon = false := by
        rw [flag, List.getD_eq_getElem?_getD]
        rcases found : flags[0]? with _ | _ | _ <;> simp_all
      rw [IndexedCursor.evaluate, evaluate_of_refused member, if_neg wanted]
  intro verdict
  have settled : verdict = _ := decided
  refine ⟨settled, ?_, ?_⟩
  · rw [settled]
    have never := Policy.reason_ne_notAccepted view
    rcases found : flags[0]? with _ | _ | _ <;> simp [Verdict.ofReason, never]
  · rw [settled]
    generalize (if flags[0]? = some true then Policy.reason view else .notAccepted) = reason
    cases reason <;> decide

end Terminator
