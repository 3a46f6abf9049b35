import Terminator.LineStart
import Terminator.Proofs.View

set_option autoImplicit false

namespace Terminator

def Text.agreement : Text → Text → Nat
  | c :: rest, d :: other => if c = d then agreement rest other + 1 else 0
  | _, _ => 0

theorem Text.agreement_eq_length {text other : Text} (within : text <+: other) :
    text.agreement other = text.length := by
  induction text generalizing other with
  | nil => rfl
  | cons c rest ih =>
    obtain ⟨tail, rfl⟩ := within
    simpa [agreement] using ih (List.prefix_append rest tail)

namespace BinaryWord

variable {C : Type} [Cursor C]

open Cursor

def inWord : Text := ['i', 'n']

def instanceofWord : Text := ['i', 'n', 's', 't', 'a', 'n', 'c', 'e', 'o', 'f']

def ofWord (word : Text) : BinaryWord :=
  if word = inWord then .inOperator
  else if word = instanceofWord then .instanceofOperator
  else .otherWord

theorem wordGoesOn_of_shows {view : View} {cursor : C} (shows : Shows view cursor) :
    wordGoesOn cursor = (view.text.head?).any Text.isAlphabetic := by
  rw [wordGoesOn, peek_of_shows shows]

theorem skipLetters_of_shows (letters : Text) {view : View} {cursor : C}
    (shows : Shows view cursor) :
    skipLetters letters cursor =
      (letters.isPrefixOf view.text, skip^[letters.agreement view.text] cursor) := by
  induction letters generalizing view cursor with
  | nil => simp [skipLetters, Text.agreement]
  | cons letter rest ih =>
    rw [skipLetters, peek_of_shows shows]
    cases view with
    | nil => simp [Text.agreement]
    | cons point later =>
      by_cases same : point.1 = letter
      next => simp [Text.agreement, same, ih shows.2.2]
      next => simp [Text.agreement, List.isPrefixOf, same, Ne.symm same]

theorem wordGoesOn_iterate_skip {letters : Text} {view : View} {cursor : C}
    (shows : Shows view cursor) (within : letters <+: view.text) :
    wordGoesOn (skip^[letters.agreement view.text] cursor) =
      ((view.text.drop letters.length).head?).any Text.isAlphabetic := by
  have inside : letters.length ≤ view.length := by simpa [View.text] using within.length_le
  rw [Text.agreement_eq_length within, wordGoesOn_of_shows (shows_iterate_skip shows inside),
    View.text_drop]

-- A word is as long as it can be, so it is known once all its letters were read and the next
-- character is none.
theorem takeWhile_eq_iff (holds : Char → Bool) {word : Text} (all : ∀ c ∈ word, holds c = true)
    (text : Text) : text.takeWhile holds = word ↔
      word <+: text ∧ ((text.drop word.length).head?).any holds = false := by
  induction word generalizing text with
  | nil => cases text <;> simp [List.takeWhile_cons]
  | cons letter rest ih =>
    have here : holds letter = true := all letter (by simp)
    have later := ih (fun c member => all c (by simp [member]))
    cases text with
    | nil => simp
    | cons c text =>
      by_cases same : c = letter
      next =>
        subst same
        simp [here, later]
      next =>
        have apart : ¬ (letter :: rest <+: c :: text) := by
          intro within
          exact same (List.cons_prefix_cons.mp within).1.symm
        by_cases held : holds c = true <;> simp [held, same, apart]

def suffix : Text := ['s', 't', 'a', 'n', 'c', 'e', 'o', 'f']

theorem isAlphabetic_of_mem_instanceofWord :
    ∀ c ∈ instanceofWord, Text.isAlphabetic c = true := by
  have all : instanceofWord.all Text.isAlphabetic = true := by decide
  exact List.all_eq_true.mp all

theorem ofWord_of_head_ne {text : Text} (other : text.head? ≠ some 'n') :
    ofWord (('i' :: text).takeWhile Text.isAlphabetic) = .otherWord := by
  have first : Text.isAlphabetic 'i' = true := by decide
  cases text with
  | nil => simp [first, ofWord, inWord, instanceofWord]
  | cons c rest =>
    have differs : c ≠ 'n' := by simpa using other
    by_cases letter : Text.isAlphabetic c = true <;>
      simp [first, letter, differs, ofWord, inWord, instanceofWord]

theorem takeWhile_eq_inWord_iff (text : Text) :
    ('i' :: 'n' :: text).takeWhile Text.isAlphabetic = inWord ↔
      (text.head?).any Text.isAlphabetic = false := by
  have all : inWord.all Text.isAlphabetic = true := by decide
  rw [takeWhile_eq_iff _ (List.all_eq_true.mp all)]
  simp [inWord]

theorem takeWhile_eq_instanceofWord_iff (text : Text) :
    ('i' :: 'n' :: text).takeWhile Text.isAlphabetic = instanceofWord ↔
      suffix <+: text ∧ ((text.drop suffix.length).head?).any Text.isAlphabetic = false := by
  rw [takeWhile_eq_iff _ isAlphabetic_of_mem_instanceofWord]
  simp [instanceofWord, suffix]

theorem ofWord_of_in (text : Text) :
    ofWord (('i' :: 'n' :: text).takeWhile Text.isAlphabetic) =
      if (text.head?).any Text.isAlphabetic then
        if suffix.isPrefixOf text && !((text.drop suffix.length).head?).any Text.isAlphabetic then
          .instanceofOperator
        else .otherWord
      else .inOperator := by
  unfold ofWord
  simp only [takeWhile_eq_inWord_iff, takeWhile_eq_instanceofWord_iff, List.isPrefixOf_iff_prefix,
    Bool.and_eq_true, Bool.not_eq_true']
  cases (text.head?).any Text.isAlphabetic <;> simp

theorem agreement_of_in (text : Text) :
    instanceofWord.agreement ('i' :: 'n' :: text) = suffix.agreement text + 2 := by
  simp [instanceofWord, suffix, Text.agreement]

theorem agreement_of_head_ne {text : Text} (other : text.head? ≠ some 'n') :
    instanceofWord.agreement ('i' :: text) = 1 := by
  cases text with
  | nil => rfl
  | cons c rest =>
    have differs : 'n' ≠ c := by simpa [eq_comm] using other
    simp [instanceofWord, Text.agreement, differs]

theorem agreement_suffix_of_wordEnd {text : Text}
    (ended : (text.head?).any Text.isAlphabetic = false) : suffix.agreement text = 0 := by
  cases text with
  | nil => rfl
  | cons c rest =>
    have differs : 's' ≠ c := by
      rintro rfl
      have letter : Text.isAlphabetic 's' = true := by decide
      simp [letter] at ended
    simp [suffix, Text.agreement, differs]

theorem read_of_shows {view : View} {cursor : C} {rest : Text} (shows : Shows view cursor)
    (starts : view.text = 'i' :: rest) :
    read cursor = (ofWord (view.text.takeWhile Text.isAlphabetic),
      skip^[instanceofWord.agreement view.text] cursor) := by
  obtain ⟨point, later, rfl⟩ := List.exists_cons_of_ne_nil (l := view) (by rintro rfl; cases starts)
  obtain rfl : View.text later = rest := (List.cons.inj starts).2
  rw [starts, read, peek_of_shows shows.2.2]
  by_cases second : (View.text later).head? = some 'n'
  next =>
    obtain ⟨point', final, rfl⟩ := List.exists_cons_of_ne_nil (l := later) (by rintro rfl; cases second)
    have letter : point'.1 = 'n' := by simpa using second
    have behind : Shows final (skip (skip cursor)) := shows.2.2.2.2
    rw [if_pos second, View.text_cons, letter, agreement_of_in, ofWord_of_in]
    simp only [wordGoesOn_of_shows behind]
    by_cases goesOn : ((View.text final).head?).any Text.isAlphabetic = true
    next =>
      have letters : skipLetters ['s', 't', 'a', 'n', 'c', 'e', 'o', 'f'] (skip (skip cursor)) = _ :=
        skipLetters_of_shows suffix behind
      simp only [goesOn, ↓reduceIte, letters]
      by_cases complete : suffix.isPrefixOf (View.text final) = true
      next =>
        have ending := wordGoesOn_iterate_skip behind (List.isPrefixOf_iff_prefix.mp complete)
        simp only [complete, ending, Bool.true_and, Function.iterate_succ_apply]
        cases ((View.text final).drop suffix.length).head?.any Text.isAlphabetic <;> rfl
      next => simp [complete]
    next =>
      have none := agreement_suffix_of_wordEnd (by simpa using goesOn)
      simp [goesOn, none]
  next =>
    rw [if_neg second, ofWord_of_head_ne second, agreement_of_head_ne second]
    rfl

end BinaryWord

end Terminator
