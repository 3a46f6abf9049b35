import Mathlib.Logic.Function.Iterate
import Terminator.Cursor

set_option autoImplicit false

namespace Terminator

/-- What a host lets a reader see: the code points ahead, each with whether a stretch of input
other than the first begins there. -/
abbrev View := List (Char × Bool)

def View.text (view : View) : Text :=
  view.map Prod.fst

@[simp] theorem View.text_nil : View.text [] = [] := rfl

@[simp] theorem View.text_cons (point : Char × Bool) (rest : View) :
    View.text (point :: rest) = point.1 :: rest.text := rfl

@[simp] theorem View.text_drop (view : View) (count : Nat) :
    View.text (view.drop count) = view.text.drop count := List.map_drop

namespace Cursor

variable {C : Type} [Cursor C]

/-- Skipping leads a cursor through a view, and then to the end of the input. -/
def Shows : View → C → Prop
  | [], cursor => peek cursor = none
  | (c, begins) :: rest, cursor =>
    peek cursor = some c ∧ atRangeStart cursor = begins ∧ Shows rest (skip cursor)

theorem peek_of_shows {view : View} {cursor : C} (shows : Shows view cursor) :
    peek cursor = view.text.head? := by
  cases view with
  | nil => exact shows
  | cons point rest => exact shows.1

theorem shows_iterate_skip {view : View} {cursor : C} (shows : Shows view cursor) {count : Nat}
    (inside : count ≤ view.length) : Shows (view.drop count) (skip^[count] cursor) := by
  induction count generalizing view cursor with
  | zero => exact shows
  | succ count ih =>
    cases view with
    | nil => simp at inside
    | cons point rest => exact ih shows.2.2 (Nat.le_of_succ_le_succ inside)

theorem exists_shows (size : C → Nat)
    (lowers : ∀ (cursor : C) (c : Char), peek cursor = some c → size (skip cursor) < size cursor)
    (cursor : C) : ∃ view, Shows view cursor := by
  induction left : size cursor using Nat.strongRecOn generalizing cursor with
  | _ left ih =>
    cases ahead : peek cursor with
    | none => exact ⟨[], ahead⟩
    | some c =>
      obtain ⟨rest, later⟩ := ih _ (left ▸ lowers cursor c ahead) (skip cursor) rfl
      exact ⟨(c, atRangeStart cursor) :: rest, ahead, rfl, later⟩

end Cursor

namespace IndexedCursor

def view (cursor : IndexedCursor) : View :=
  (cursor.text.zipIdx.drop cursor.place).map fun (c, place) => (c, cursor.rangeStarts.contains place)

def ofView (view : View) : IndexedCursor :=
  ofText view.text ((List.range view.length).filter fun place => (view[place]?).any Prod.snd)

theorem view_ofView (view : View) : (ofView view).view = view := by
  apply List.ext_getElem
  · simp [IndexedCursor.view, ofView, ofText, View.text]
  · intro place first second
    simp [IndexedCursor.view, ofView, ofText, View.text, second]

theorem view_of_lt {cursor : IndexedCursor} (inside : cursor.place < cursor.text.length) :
    cursor.view = (cursor.text[cursor.place], cursor.rangeStarts.contains cursor.place) ::
      (Cursor.skip cursor).view := by
  have present : cursor.place < cursor.text.zipIdx.length := by simpa using inside
  rw [view, List.drop_eq_getElem_cons present]
  simp [Cursor.skip, forward, inside, view]

theorem shows_view (cursor : IndexedCursor) : Cursor.Shows cursor.view cursor := by
  generalize left : cursor.remaining = count
  induction count generalizing cursor with
  | zero =>
    have outside : cursor.text.length ≤ cursor.place := by simp only [remaining] at left; omega
    have nothing : cursor.view = [] := by simp [view, outside]
    rw [nothing]
    exact List.getElem?_eq_none outside
  | succ count ih =>
    have inside : cursor.place < cursor.text.length := by simp only [remaining] at left; omega
    rw [view_of_lt inside]
    refine ⟨List.getElem?_eq_getElem inside, rfl, ih (Cursor.skip cursor) ?_⟩
    simp only [remaining, Cursor.skip, forward, inside, ↓reduceIte] at left ⊢
    omega

end IndexedCursor

end Terminator
