import Terminator.Proofs.HostProtocol
import Terminator.Proofs.Lookahead
import Terminator.Proofs.ReaderRefinement

set_option autoImplicit false

namespace Terminator

open Cursor

variable {C : Type} [Cursor C]

structure Text.LongestShared (word text front : Text) : Prop where
  within : front <+: word
  ahead : front <+: text
  longest : ∀ other, other <+: word → other <+: text → other <+: front

theorem Text.longestShared_agreement (word text : Text) :
    LongestShared word text (word.take (word.agreement text)) := by
  refine ⟨List.take_prefix _ _, ?_, fun other => ?_⟩
  · induction word generalizing text with
    | nil => simp
    | cons letter rest ih =>
      cases text with
      | nil => simp [agreement]
      | cons c tail =>
        by_cases same : letter = c
        next => simpa [agreement, same] using ih tail
        next => simp [agreement, same]
  · induction word generalizing text other with
    | nil =>
      intro within _
      simpa using within
    | cons letter rest ih =>
      cases other with
      | nil => simp
      | cons first front =>
        cases text with
        | nil => simp
        | cons c tail =>
          intro within ahead
          obtain ⟨same, inRest⟩ := List.cons_prefix_cons.mp within
          obtain ⟨same', inTail⟩ := List.cons_prefix_cons.mp ahead
          simpa [agreement, ← same, ← same'] using ih tail front inRest inTail

theorem Cursor.shows_unique {view other : View} {cursor : C} (shows : Shows view cursor)
    (shows' : Shows other cursor) : other = view := by
  induction view generalizing other cursor with
  | nil =>
    cases other with
    | nil => rfl
    | cons point rest => exact absurd (shows'.1.symm.trans shows) (by simp)
  | cons point rest ih =>
    cases other with
    | nil => exact absurd (shows.1.symm.trans shows') (by simp)
    | cons point' rest' =>
      have letter : point'.1 = point.1 := Option.some.inj (shows'.1.symm.trans shows.1)
      have start : point'.2 = point.2 := shows'.2.1.symm.trans shows.2.1
      rw [ih shows.2.2 shows'.2.2, Prod.ext letter start]

theorem IndexedCursor.text_view (cursor : IndexedCursor) :
    cursor.view.text = cursor.text.drop cursor.place := by
  have letters : cursor.text.zipIdx.map Prod.fst = cursor.text := List.zipIdx_map_fst 0 cursor.text
  rw [View.text, view, List.map_map, ← congrArg (List.drop cursor.place) letters, List.map_drop]
  rfl

namespace Recorded

theorem shows_recorded {view : View} {recorded : Recorded C} (shows : Shows view recorded.inner) :
    Shows view recorded := by
  induction view generalizing recorded with
  | nil => exact shows
  | cons point rest ih => exact ⟨shows.1, shows.2.1, ih shows.2.2⟩

theorem iterate_skip (recorded : Recorded C) (count : Nat) :
    (skip^[count] recorded).inner = skip^[count] recorded.inner ∧
      (skip^[count] recorded).calls = recorded.calls ++ List.replicate count .skip := by
  induction count generalizing recorded with
  | zero => simp
  | succ count ih =>
    obtain ⟨inner, calls⟩ := ih (skip recorded)
    have first : (skip recorded).calls = recorded.calls ++ [.skip] := calls_record recorded .skip _
    rw [Function.iterate_succ_apply, Function.iterate_succ_apply]
    refine ⟨inner, ?_⟩
    rw [calls, first, List.append_assoc, List.replicate_succ, List.singleton_append]

end Recorded

theorem SourceReader.exists_shows_ahead (source : Text) (scope : Option (List Span))
    (calls : List ReaderCall) :
    let visible := scope.map (Span.visible source)
    let reader := (ofScope source scope).run calls
    ∃ view, Shows view reader ∧ view.text =
      (visibleText source visible).drop (visibleBefore source visible reader.position) := by
  intro visible reader
  obtain ⟨sound, given, seen⟩ : reader.Sound ∧ reader.source = source ∧ reader.scope = visible :=
    sound_run_ofScope source scope calls
  obtain ⟨view, shows⟩ := exists_shows reader
  have same := shows_unique (shows_visibleCursor sound shows) reader.visibleCursor.shows_view
  refine ⟨view, shows, ?_⟩
  rw [← same, IndexedCursor.text_view, ← given, ← seen]
  rfl

namespace BinaryWord

variable {view : View} {cursor : C}

/-- The word ahead of a cursor is told by all its letters, while no letter is skipped that it does
not have in common with the longer operator. -/
structure ReadsWord (text : Text) (cursor : C) : Prop where
  inOperator : (read cursor).1 = .inOperator ↔ text.takeWhile Text.isAlphabetic = inWord
  instanceofOperator :
    (read cursor).1 = .instanceofOperator ↔ text.takeWhile Text.isAlphabetic = instanceofWord
  otherWord : (read cursor).1 = .otherWord ↔
    text.takeWhile Text.isAlphabetic ≠ inWord ∧ text.takeWhile Text.isAlphabetic ≠ instanceofWord
  observed : (read (Recorded.start cursor)).1 = (read cursor).1 ∧
    (read (Recorded.start cursor)).2.inner = (read cursor).2
  skips : ∃ front, Text.LongestShared instanceofWord text front ∧
    (read (Recorded.start cursor)).2.calls = List.replicate front.length .skip ∧
    (read cursor).2 = skip^[front.length] cursor ∧
    ∃ later, Shows later (read cursor).2 ∧ later.text = text.drop front.length

theorem ofWord_eq_iff (word : Text) :
    (ofWord word = .inOperator ↔ word = inWord) ∧
      (ofWord word = .instanceofOperator ↔ word = instanceofWord) ∧
      (ofWord word = .otherWord ↔ word ≠ inWord ∧ word ≠ instanceofWord) := by
  have apart : instanceofWord ≠ inWord := by decide
  unfold ofWord
  by_cases short : word = inWord
  next => simp [short, apart.symm]
  next =>
    by_cases long : word = instanceofWord <;> simp [short, long, apart]

theorem readsWord_of_shows (shows : Shows view cursor) (starts : view.text.head? = some 'i') :
    ReadsWord view.text cursor := by
  obtain ⟨rest, text⟩ := List.head?_eq_some_iff.mp starts
  have fresh : Shows view (Recorded.start cursor) := Recorded.shows_recorded shows
  have direct := read_of_shows shows text
  have recorded := read_of_shows fresh text
  have shared := Text.longestShared_agreement instanceofWord view.text
  obtain ⟨short, long⟩ := Text.agreement_le_length instanceofWord view.text
  have letters : (instanceofWord.take (instanceofWord.agreement view.text)).length =
      instanceofWord.agreement view.text := List.length_take_of_le short
  obtain ⟨inner, calls⟩ :=
    (Recorded.start cursor).iterate_skip (instanceofWord.agreement view.text)
  obtain ⟨inOperator, instanceofOperator, otherWord⟩ :=
    ofWord_eq_iff (view.text.takeWhile Text.isAlphabetic)
  have inside : instanceofWord.agreement view.text ≤ view.length := by simpa [View.text] using long
  refine ⟨?_, ?_, ?_, ?_, _, shared, ?_, ?_, view.drop (instanceofWord.agreement view.text), ?_, ?_⟩
  · rw [direct, inOperator]
  · rw [direct, instanceofOperator]
  · rw [direct, otherWord]
  · rw [direct, recorded]
    exact ⟨rfl, inner⟩
  · rw [recorded, letters]
    exact calls
  · rw [direct, letters]
  · rw [direct]
    exact shows_iterate_skip shows inside
  · rw [View.text_drop, letters]

/-- Whatever the cursor, and however the text ahead is spliced from the stretches of a source, a
whole word is read and nothing is skipped that differs from the operators. -/
theorem read_whole_word :
    (∀ {C : Type} [Cursor C] (view : View) (cursor : C), Shows view cursor →
      view.text.head? = some 'i' → ReadsWord view.text cursor) ∧
    ∀ (source : Text) (scope : Option (List Span)) (calls : List ReaderCall),
      let visible := scope.map (Span.visible source)
      let reader := (SourceReader.ofScope source scope).run calls
      let ahead := (visibleText source visible).drop (visibleBefore source visible reader.position)
      ahead.head? = some 'i' → ReadsWord ahead reader := by
  refine ⟨fun view cursor => readsWord_of_shows, fun source scope calls => ?_⟩
  intro visible reader ahead starts
  obtain ⟨view, shows, text⟩ : ∃ view, Shows view reader ∧ view.text = ahead :=
    SourceReader.exists_shows_ahead source scope calls
  rw [← text] at starts ⊢
  exact readsWord_of_shows shows starts

theorem read_spliced_word :
    let source : Text :=
      ['\n', 'i', 'n', '#', 's', 't', 'a', 'n', 'c', 'e', 'o', 'f', 'é', '(']
    let scope : Option (List Span) := some [⟨14, 15⟩, ⟨0, 3⟩, ⟨4, 12⟩]
    let reader := (SourceReader.ofScope source scope).run [.host .skip]
    let view : View := [('i', false), ('n', true), ('é', false)]
    (read reader).1 = .instanceofOperator ∧
      (read (Recorded.start reader)).2.calls = List.replicate instanceofWord.length .skip ∧
      (read (IndexedCursor.ofView view)).1 = .otherWord := by
  intro source scope reader view
  obtain ⟨anyCursor, anySource⟩ := read_whole_word
  let text := (visibleText source (scope.map (Span.visible source))).drop
    (visibleBefore source (scope.map (Span.visible source)) reader.position)
  have ahead : text = instanceofWord ++ ['('] := by decide
  have starts : text.head? = some 'i' := by rw [ahead]; rfl
  have reads : ReadsWord text reader := anySource source scope [.host .skip] starts
  clear_value reader text
  subst ahead
  obtain ⟨front, shared, calls, _⟩ := reads.skips
  have reached := shared.longest _ (List.prefix_refl instanceofWord) (List.prefix_append _ _)
  have whole : front = instanceofWord := shared.within.eq_of_length_le reached.length_le
  refine ⟨reads.instanceofOperator.mpr (by decide), whole ▸ calls, ?_⟩
  have shown := (IndexedCursor.ofView view).shows_view
  rw [IndexedCursor.view_ofView] at shown
  exact (anyCursor view _ shown rfl).otherWord.mpr (by decide)

end BinaryWord

end Terminator
