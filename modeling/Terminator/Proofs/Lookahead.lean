import Terminator.Proofs.DecisionPolicy

set_option autoImplicit false

namespace Terminator

section Agreement

variable {α : Type} {list other : List α} {count : Nat}

theorem take_eq_of_le {least : Nat} (less : least ≤ count)
    (same : other.take count = list.take count) : other.take least = list.take least := by
  simpa [List.take_take, less] using congrArg (List.take least) same

theorem getElem?_eq_of_take {place : Nat} (inside : place < count)
    (same : other.take count = list.take count) : other[place]? = list[place]? := by
  simpa [inside] using congrArg (·[place]?) same

theorem head?_eq_of_take (same : other.take (count + 1) = list.take (count + 1)) :
    other.head? = list.head? := by
  simpa [List.head?_eq_getElem?] using getElem?_eq_of_take (Nat.succ_pos count) same

theorem exists_cons_of_take {first : α}
    (same : other.take (count + 1) = (first :: list).take (count + 1)) :
    ∃ rest, other = first :: rest ∧ rest.take count = list.take count := by
  cases other with
  | nil => simp at same
  | cons head rest =>
    simp only [List.take_succ_cons, List.cons.injEq] at same
    exact ⟨rest, by rw [same.1], same.2⟩

theorem findIdx_eq_of_take {holds : α → Bool}
    (same : other.take (list.findIdx holds + 1) = list.take (list.findIdx holds + 1)) :
    other.findIdx holds = list.findIdx holds := by
  have bounded := congrArg (List.findIdx holds) same
  rw [List.findIdx_take, List.findIdx_take] at bounded
  omega

end Agreement

namespace Text

variable {word text other : Text}

theorem agreement_le_length (word text : Text) :
    word.agreement text ≤ word.length ∧ word.agreement text ≤ text.length := by
  induction word generalizing text with
  | nil => simp [agreement]
  | cons letter rest ih =>
    cases text with
    | nil => simp [agreement]
    | cons c tail =>
      have later := ih tail
      simp only [agreement, List.length_cons]
      split <;> omega

theorem isPrefixOf_eq_agreement (word text : Text) :
    word.isPrefixOf text = decide (word.agreement text = word.length) := by
  induction word generalizing text with
  | nil => simp [agreement]
  | cons letter rest ih =>
    cases text with
    | nil => simp [agreement]
    | cons c tail =>
      by_cases same : letter = c
      next => simp [agreement, List.isPrefixOf, same, ih]
      next => simp [agreement, List.isPrefixOf, same]

-- The character after the agreement is where the two differ, and so has to be known.
theorem agreement_of_take
    (same : other.take (word.agreement text + 1) = text.take (word.agreement text + 1)) :
    word.agreement other = word.agreement text := by
  induction word generalizing text other with
  | nil => rfl
  | cons letter rest ih =>
    cases text with
    | nil => simp_all [agreement]
    | cons c tail =>
      obtain ⟨tail', rfl, later⟩ := exists_cons_of_take same
      by_cases here : letter = c
      next =>
        simp only [agreement, here, if_true] at later ⊢
        rw [ih later]
      next => simp [agreement, here]

end Text

namespace BinaryWord

theorem ofWord_of_take {rest other : Text}
    (same : other.take (instanceofWord.agreement ('i' :: rest)) =
      rest.take (instanceofWord.agreement ('i' :: rest))) :
    ofWord (('i' :: other).takeWhile Text.isAlphabetic) =
      ofWord (('i' :: rest).takeWhile Text.isAlphabetic) := by
  by_cases second : rest.head? = some 'n'
  next =>
    obtain ⟨tail, rfl⟩ := List.head?_eq_some_iff.mp second
    rw [agreement_of_in] at same
    obtain ⟨tail', rfl, later⟩ := exists_cons_of_take same
    have agrees := Text.agreement_of_take later
    have behind (complete : suffix.agreement tail = suffix.length) :
        (tail'.drop suffix.length).head? = (tail.drop suffix.length).head? := by
      rw [complete] at later
      simpa using getElem?_eq_of_take (Nat.lt_succ_self suffix.length) later
    rw [ofWord_of_in, ofWord_of_in, head?_eq_of_take later, Text.isPrefixOf_eq_agreement,
      Text.isPrefixOf_eq_agreement, agrees]
    by_cases complete : suffix.agreement tail = suffix.length
    next => rw [behind complete]
    next => simp [complete]
  next =>
    rw [agreement_of_head_ne second] at same
    have second' : other.head? ≠ some 'n' := by rwa [head?_eq_of_take same]
    rw [ofWord_of_head_ne second, ofWord_of_head_ne second']

end BinaryWord

namespace Policy

theorem lineReach_le (text : Text) : lineReach text ≤ BinaryWord.instanceofWord.length := by
  have word := (Text.agreement_le_length BinaryWord.instanceofWord text).1
  unfold lineReach
  split
  case h_5 => exact word
  all_goals decide

theorem lineReach_le_length (text : Text) : lineReach text ≤ text.length := by
  have word := (Text.agreement_le_length BinaryWord.instanceofWord text).2
  unfold lineReach
  split
  case h_5 => exact word
  all_goals simp

theorem lineReason_of_take {text other : Text}
    (same : other.take (lineReach text + 1) = text.take (lineReach text + 1)) :
    lineReason other = lineReason text ∧ lineReach other = lineReach text := by
  cases text with
  | nil => simp_all [lineReach]
  | cons c rest =>
    obtain ⟨rest', rfl, later⟩ := exists_cons_of_take same
    by_cases special : c ∈ ['.', '+', '-', '!', 'i']
    next =>
      simp only [List.mem_cons, List.not_mem_nil, or_false] at special
      rcases special with rfl | rfl | rfl | rfl | rfl
      case inr.inr.inr.inr =>
        have word := BinaryWord.ofWord_of_take later
        exact ⟨by rw [lineReason, lineReason, wordReason_eq, wordReason_eq, word],
          Text.agreement_of_take same⟩
      all_goals
        have second := head?_eq_of_take later
        simp [lineReason, lineReach, second]
    next =>
      rw [lineReason_of_plain special, lineReason_of_plain special, lineReach_of_plain special,
        lineReach_of_plain special]
      exact ⟨rfl, rfl⟩

theorem reach_le (view : View) : reach view ≤ view.findIdx settles + 1 + 10 := by
  simp only [reach]
  split
  next => omega
  next =>
    have line := lineReach_le (View.text (view.drop (view.findIdx settles + 1)))
    have ten : BinaryWord.instanceofWord.length = 10 := rfl
    split <;> omega

theorem findIdx_le_reach (view : View) : view.findIdx settles ≤ reach view := by
  simp only [reach]
  split
  next => omega
  next => split <;> omega

theorem reach_le_length (view : View) : reach view ≤ view.length := by
  simp only [reach]
  cases here : view[view.findIdx settles]? with
  | none => exact List.findIdx_le_length
  | some point =>
    have inside := (List.getElem?_eq_some_iff.mp here).1
    have line := lineReach_le_length (View.text (view.drop (view.findIdx settles + 1)))
    have behind : (View.text (view.drop (view.findIdx settles + 1))).length =
        view.length - (view.findIdx settles + 1) := by
      simp [View.text]
    obtain ⟨c, begins⟩ := point
    simp only
    split <;> omega

theorem text_drop_of_take {view other : View} {place count : Nat}
    (same : other.take (place + count + 1) = view.take (place + count + 1)) :
    (View.text (other.drop place)).take (count + 1) =
      (View.text (view.drop place)).take (count + 1) := by
  have behind : place + count + 1 - place = count + 1 := by omega
  have cut := congrArg (fun list : View => (list.drop place).map Prod.fst) same
  simpa [List.drop_take, behind, View.text] using cut

/-- What is read of a view and the code point behind it settle the reason, and how far is read. -/
theorem reason_of_take {view other : View}
    (same : other.take (reach view + 1) = view.take (reach view + 1)) :
    reason other = reason view ∧ reach other = reach view := by
  have place : other.findIdx settles = view.findIdx settles :=
    findIdx_eq_of_take (take_eq_of_le (Nat.succ_le_succ (findIdx_le_reach view)) same)
  have here : other[view.findIdx settles]? = view[view.findIdx settles]? :=
    getElem?_eq_of_take (Nat.lt_succ_of_le (findIdx_le_reach view)) same
  simp only [reason, reach, place, here]
  cases found : view[view.findIdx settles]? with
  | none => exact ⟨rfl, rfl⟩
  | some point =>
    obtain ⟨c, begins⟩ := point
    by_cases line : c ≠ '}' ∧ begins = false ∧ Text.isLineBreak c = true
    next =>
      have reaches : reach view = view.findIdx settles + 1 +
          lineReach (View.text (view.drop (view.findIdx settles + 1))) := by
        simp [reach, found, line]
      have settled := lineReason_of_take (text_drop_of_take (reaches ▸ same))
      simpa [line] using settled
    next =>
      by_cases brace : c = '}'
      next => simp [brace]
      next => cases begins <;> simp_all

end Policy

namespace IndexedCursor

theorem place_iterate_skip {cursor : IndexedCursor} {count : Nat}
    (inside : cursor.place + count ≤ cursor.text.length) :
    (Cursor.skip^[count] cursor).place = cursor.place + count := by
  induction count generalizing cursor with
  | zero => rfl
  | succ count ih =>
    have moves : Cursor.skip cursor = { cursor with place := cursor.place + 1 } := by
      have more : cursor.place < cursor.text.length := by omega
      simp [Cursor.skip, forward, more]
    rw [Function.iterate_succ_apply, moves, ih (by simp only; omega)]
    simp only
    omega

theorem place_iterate_skip_ofView {view : View} {count : Nat} (inside : count ≤ view.length) :
    (Cursor.skip^[count] (ofView view)).place = count := by
  have start : (ofView view).place = 0 := rfl
  have length : (ofView view).text.length = view.length := by simp [ofView, ofText, View.text]
  rw [place_iterate_skip (by omega), start, Nat.zero_add]

end IndexedCursor

/-- An evaluation reads no more than ten code points behind the blanks and the line break, and what
it answers is settled by what it reads and the code point behind that. -/
theorem evaluate_settled_by_front (accepted : TokenSet)
    (wanted : accepted.contains .automaticSemicolon = true) (view other : View) :
    let cursor := IndexedCursor.ofView view
    let skipped := (passBlanks cursor.remaining (Cursor.mark cursor)).place
    let answer := cursor.evaluate accepted
    let answer' := (IndexedCursor.ofView other).evaluate accepted
    skipped = view.findIdx Policy.settles ∧ answer.2.place ≤ skipped + 1 + 10 ∧
      (other.take (answer.2.place + 1) = view.take (answer.2.place + 1) →
        answer'.1 = answer.1 ∧ answer'.2.place = answer.2.place) := by
  intro cursor skipped answer answer'
  have shows : Cursor.Shows view cursor := by
    have shown := IndexedCursor.shows_view cursor
    rwa [IndexedCursor.view_ofView] at shown
  have passed : skipped = view.findIdx Policy.settles := by
    have blanks := passBlanks_of_shows (IndexedCursor.blankRunWithin cursor) shows
    exact (congrArg IndexedCursor.place blanks).trans
      (IndexedCursor.place_iterate_skip_ofView List.findIdx_le_length)
  have answered (view : View) :
      ((IndexedCursor.ofView view).evaluate accepted).1 = Verdict.ofReason (Policy.reason view) ∧
        ((IndexedCursor.ofView view).evaluate accepted).2.place = Policy.reach view := by
    rw [IndexedCursor.evaluate_eq wanted, IndexedCursor.view_ofView]
    exact ⟨rfl, IndexedCursor.place_iterate_skip_ofView (Policy.reach_le_length view)⟩
  obtain ⟨verdict, reached⟩ : answer.1 = _ ∧ answer.2.place = _ := answered view
  obtain ⟨verdict', reached'⟩ : answer'.1 = _ ∧ answer'.2.place = _ := answered other
  have bounded := Policy.reach_le view
  refine ⟨passed, by omega, fun same => ?_⟩
  rw [reached] at same
  obtain ⟨reason, reach⟩ := Policy.reason_of_take same
  rw [verdict', verdict, reached', reached, reason, reach]
  exact ⟨rfl, rfl⟩

-- The two inputs differ behind the letter that tells `index` from an operator.
theorem evaluate_settled_by_letter :
    let accepted := TokenSet.singleton .automaticSemicolon
    let view : View :=
      [(' ', false), ('\n', false), ('i', false), ('n', false), ('d', true), ('e', false)]
    let other : View :=
      [(' ', false), ('\n', false), ('i', false), ('n', false), ('d', true), ('}', true)]
    let answer := (IndexedCursor.ofView view).evaluate accepted
    let answer' := (IndexedCursor.ofView other).evaluate accepted
    accepted.contains .automaticSemicolon = true ∧
      other.take (answer.2.place + 1) = view.take (answer.2.place + 1) ∧ answer.2.place = 4 ∧
      answer'.1 = answer.1 ∧ answer'.2.place = answer.2.place :=
  ⟨rfl, by decide +kernel, by decide +kernel,
    (evaluate_settled_by_front (.singleton .automaticSemicolon) rfl _ _).2.2 (by decide +kernel)⟩

end Terminator
