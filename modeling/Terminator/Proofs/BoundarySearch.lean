import Terminator.Proofs.TextBoundaries

set_option autoImplicit false

namespace Terminator.Text

def utf8 (text : Text) : List UInt8 :=
  text.flatMap String.utf8EncodeChar

def beginsAt (text : Text) (offset : Nat) : Bool :=
  match text.utf8[offset]? with
  | some byte => decide byte.IsUTF8FirstByte
  | none => offset = text.utf8.length

-- The steps are counted. There is no result where they would lead below the first byte.
def searchDown (text : Text) : Nat → Option (Nat × Nat)
  | 0 => if text.beginsAt 0 then some (0, 0) else none
  | offset + 1 =>
    if text.beginsAt (offset + 1) then some (offset + 1, 0)
    else (text.searchDown offset).map fun (found, steps) => (found, steps + 1)

def searchUp (text : Text) (offset : Nat) : Option (Nat × Nat) :=
  if text.beginsAt offset then some (offset, 0)
  else if offset < text.byteLength then
    (text.searchUp (offset + 1)).map fun (found, steps) => (found, steps + 1)
  else none
termination_by text.byteLength - offset

variable {text : Text} {offset : Nat}

theorem utf8_cons (c : Char) (rest : Text) :
    utf8 (c :: rest) = String.utf8EncodeChar c ++ utf8 rest := rfl

theorem length_utf8 (text : Text) : text.utf8.length = text.byteLength := by
  induction text with
  | nil => rfl
  | cons c rest ih =>
    rw [utf8_cons, List.length_append, String.length_utf8EncodeChar, ih, byteLength_cons]

theorem beginsAt_iff : text.beginsAt offset = true ↔ text.IsBoundary offset := by
  induction text generalizing offset with
  | nil => cases offset <;> simp [beginsAt, utf8, IsBoundary]
  | cons c rest ih =>
    have width := String.length_utf8EncodeChar c
    by_cases inside : offset < c.utf8Size
    next =>
      have within : offset < (String.utf8EncodeChar c).length := by omega
      have byte : (utf8 (c :: rest))[offset]? = some (String.utf8EncodeChar c)[offset] := by
        rw [utf8_cons, List.getElem?_append_left within, List.getElem?_eq_getElem within]
      have first := @UInt8.isUTF8FirstByte_getElem_utf8EncodeChar c offset within
      have short : ¬c.utf8Size ≤ offset := Nat.not_le_of_lt inside
      simp [beginsAt, byte, first, isBoundary_cons, short]
    next =>
      have wide := c.utf8Size_pos
      have byte : (utf8 (c :: rest))[offset]? = (utf8 rest)[offset - c.utf8Size]? := by
        rw [utf8_cons, List.getElem?_append_right (by omega), width]
      have same : beginsAt (c :: rest) offset = beginsAt rest (offset - c.utf8Size) := by
        simp only [beginsAt, byte, length_utf8, byteLength_cons]
        split
        next => rfl
        next => exact decide_eq_decide.mpr (by omega)
      have positive : offset ≠ 0 := by omega
      have long : c.utf8Size ≤ offset := Nat.le_of_not_lt inside
      simp [same, ih, isBoundary_cons, positive, long]

theorem searchDown_eq (text : Text) (offset : Nat) :
    text.searchDown offset =
      some (text.floorBoundary offset, offset - text.floorBoundary offset) := by
  induction offset with
  | zero =>
    have start := isBoundary_zero text
    simp [searchDown, beginsAt_iff.mpr start, floorBoundary_eq_self start]
  | succ offset ih =>
    by_cases cut : text.IsBoundary (offset + 1)
    next => simp [searchDown, beginsAt_iff.mpr cut, floorBoundary_eq_self cut]
    next =>
      have passed : ¬text.beginsAt (offset + 1) = true := mt beginsAt_iff.mp cut
      have found := isBoundary_floorBoundary text (offset + 1)
      have reached := floorBoundary_le text (offset + 1)
      have differs : text.floorBoundary (offset + 1) ≠ offset + 1 := fun same => cut (same ▸ found)
      have below : text.floorBoundary (offset + 1) ≤ text.floorBoundary offset :=
        le_floorBoundary found (by omega)
      have same : text.floorBoundary (offset + 1) = text.floorBoundary offset :=
        Nat.le_antisymm below (floorBoundary_mono text (Nat.le_succ offset))
      have start := floorBoundary_le text offset
      have counted :
          offset - text.floorBoundary offset + 1 = offset + 1 - text.floorBoundary offset := by
        omega
      simp only [searchDown, if_neg passed, ih, Option.map_some, same, counted]

theorem searchUp_eq (within : offset ≤ text.byteLength) :
    text.searchUp offset = some (text.ceilBoundary offset, text.ceilBoundary offset - offset) := by
  fun_induction searchUp text offset with
  | case1 offset cut => simp [ceilBoundary_eq_self (beginsAt_iff.mp cut)]
  | case2 offset passed less ih =>
    have found := isBoundary_ceilBoundary text offset
    have reached := min_le_ceilBoundary text offset
    have differs : text.ceilBoundary offset ≠ offset :=
      fun same => passed (beginsAt_iff.mpr (same ▸ found))
    have above : text.ceilBoundary (offset + 1) ≤ text.ceilBoundary offset :=
      ceilBoundary_le found (by omega)
    have same : text.ceilBoundary (offset + 1) = text.ceilBoundary offset :=
      Nat.le_antisymm above (ceilBoundary_mono text (Nat.le_succ offset))
    have counted :
        text.ceilBoundary offset - (offset + 1) + 1 = text.ceilBoundary offset - offset := by
      omega
    simp only [ih less, same, Option.map_some, counted]
  | case3 offset passed last =>
    have ended : offset = text.byteLength := by omega
    exact absurd (beginsAt_iff.mpr (ended ▸ isBoundary_byteLength text)) passed

theorem floorBoundary_min (text : Text) (offset : Nat) :
    text.floorBoundary (min offset text.byteLength) = text.floorBoundary offset := by
  have greatest := isGreatest_floorBoundary text (min offset text.byteLength)
  rw [Nat.min_assoc, Nat.min_self] at greatest
  exact greatest.unique (isGreatest_floorBoundary text offset)

theorem ceilBoundary_min (text : Text) (offset : Nat) :
    text.ceilBoundary (min offset text.byteLength) = text.ceilBoundary offset := by
  have least := isLeast_ceilBoundary text (min offset text.byteLength)
  rw [Nat.min_assoc, Nat.min_self] at least
  exact least.unique (isLeast_ceilBoundary text offset)

-- What is no boundary lies inside a code point, which begins and ends at the nearest boundaries.
theorem exists_bracketed (within : offset ≤ text.byteLength) (inside : ¬text.IsBoundary offset) :
    ∃ (front back : Text) (c : Char), text = front ++ c :: back ∧
      front.byteLength = text.floorBoundary offset ∧
      text.floorBoundary offset + c.utf8Size = text.ceilBoundary offset ∧
      text.floorBoundary offset < offset ∧ offset < text.ceilBoundary offset := by
  have start := isBoundary_floorBoundary text offset
  have below := floorBoundary_le text offset
  have before : text.floorBoundary offset ≠ offset := fun same => inside (same ▸ start)
  cases here : text.charAt (text.floorBoundary offset) with
  | none =>
    have ended := (charAt_eq_none_iff start).mp here
    omega
  | some c =>
    have stop := isBoundary_add_of_charAt start here
    have beyond : offset < text.floorBoundary offset + c.utf8Size :=
      (floorBoundary_le_iff start here).mp (Nat.le_refl _)
    have reached : text.floorBoundary offset < text.ceilBoundary offset :=
      (lt_ceilBoundary_iff start here).mpr (by omega)
    have later := isBoundary_ceilBoundary text offset
    have upper : text.floorBoundary offset + c.utf8Size = text.ceilBoundary offset :=
      Nat.le_antisymm (add_le_of_isBoundary start here later reached)
        (ceilBoundary_le stop (Nat.le_of_lt beyond))
    obtain ⟨front, back, whole, length⟩ := exists_cons_of_charAt start here
    exact ⟨front, back, c, whole, length, upper, by omega, by omega⟩

theorem near_floorBoundary (within : offset ≤ text.byteLength) :
    offset - text.floorBoundary offset ≤ 3 ∧ text.ceilBoundary offset - offset ≤ 3 := by
  by_cases cut : text.IsBoundary offset
  next => simp [floorBoundary_eq_self cut, ceilBoundary_eq_self cut]
  next =>
    obtain ⟨_, _, c, _, _, upper, before, beyond⟩ := exists_bracketed within cut
    have narrow := c.utf8Size_le_four
    omega

/-- The boundaries around an offset are found byte by byte, in three steps at most. They are the
nearest ones on either side, and have one code point between them unless the offset is a
boundary. -/
theorem search_finds_nearest_boundaries (text : Text) (offset : Nat) :
    let inside := min offset text.byteLength
    let lower := text.floorBoundary offset
    let upper := text.ceilBoundary offset
    (∃ steps ≤ 3, text.searchDown inside = some (lower, steps)) ∧
      (∃ steps ≤ 3, text.searchUp inside = some (upper, steps)) ∧
      IsGreatest {cut | text.IsBoundary cut ∧ cut ≤ inside} lower ∧
      IsLeast {cut | text.IsBoundary cut ∧ inside ≤ cut} upper ∧
      Monotone text.floorBoundary ∧ Monotone text.ceilBoundary ∧
      text.floorBoundary lower = lower ∧ text.ceilBoundary upper = upper ∧
      (lower = upper ↔ text.IsBoundary inside) ∧
      (text.IsBoundary inside ∨
        ∃ (front back : Text) (c : Char), text = front ++ c :: back ∧ front.byteLength = lower ∧
          lower + c.utf8Size = upper ∧ lower < inside ∧ inside < upper) := by
  intro inside lower upper
  have within : inside ≤ text.byteLength := Nat.min_le_right _ _
  have near := near_floorBoundary within
  have down := searchDown_eq text inside
  have up := searchUp_eq within
  have bracketed := exists_bracketed within
  rw [floorBoundary_min] at near down bracketed
  rw [ceilBoundary_min] at near up bracketed
  have greatest := isGreatest_floorBoundary text offset
  have least := isLeast_ceilBoundary text offset
  refine ⟨⟨_, near.1, down⟩, ⟨_, near.2, up⟩, greatest, least,
    fun _ _ less => floorBoundary_mono text less, fun _ _ less => ceilBoundary_mono text less,
    floorBoundary_eq_self greatest.1.1, ceilBoundary_eq_self least.1.1, ?_, ?_⟩
  · constructor
    · intro same
      have between : inside = lower := Nat.le_antisymm (same ▸ least.1.2) greatest.1.2
      exact between ▸ greatest.1.1
    · intro cut
      have low : inside ≤ lower := greatest.2 ⟨cut, Nat.le_refl _⟩
      have high : upper ≤ inside := least.2 ⟨cut, Nat.le_refl _⟩
      exact Nat.le_antisymm (floorBoundary_le_ceilBoundary text offset) (Nat.le_trans high low)
  · by_cases cut : text.IsBoundary inside
    · exact .inl cut
    · exact .inr (bracketed cut)

end Terminator.Text
