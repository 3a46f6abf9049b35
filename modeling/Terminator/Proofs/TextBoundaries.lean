import Mathlib.Order.Bounds.Basic
import Mathlib.Tactic.Common
import Terminator.Text

set_option autoImplicit false

namespace Terminator.Text

theorem byteLength_nil : byteLength [] = 0 := rfl

theorem byteLength_cons (c : Char) (rest : Text) :
    byteLength (c :: rest) = c.utf8Size + byteLength rest := rfl

theorem dropBytes_cons (c : Char) (rest : Text) (count : Nat) :
    dropBytes (c :: rest) count =
      if count = 0 then c :: rest else dropBytes rest (count - c.utf8Size) := rfl

theorem floorBoundary_cons (c : Char) (rest : Text) (offset : Nat) :
    floorBoundary (c :: rest) offset =
      if offset < c.utf8Size then 0
      else c.utf8Size + floorBoundary rest (offset - c.utf8Size) := rfl

theorem ceilBoundary_cons (c : Char) (rest : Text) (offset : Nat) :
    ceilBoundary (c :: rest) offset =
      if offset = 0 then 0 else c.utf8Size + ceilBoundary rest (offset - c.utf8Size) := rfl

theorem isBoundary_cons {c : Char} {rest : Text} {offset : Nat} :
    IsBoundary (c :: rest) offset ↔
      offset = 0 ∨ c.utf8Size ≤ offset ∧ IsBoundary rest (offset - c.utf8Size) := by
  cases offset with
  | zero => exact ⟨fun _ => .inl rfl, fun _ => trivial⟩
  | succ offset => exact ⟨.inr, fun within => within.resolve_left (Nat.succ_ne_zero offset)⟩

instance decidableIsBoundary : (text : Text) → DecidablePred text.IsBoundary
  | [], 0 => .isTrue trivial
  | [], _ + 1 => .isFalse id
  | c :: rest, offset =>
    have := decidableIsBoundary rest (offset - c.utf8Size)
    decidable_of_iff _ isBoundary_cons.symm

theorem isBoundary_append (front back : Text) (offset : Nat) :
    IsBoundary (front ++ back) (front.byteLength + offset) ↔ IsBoundary back offset := by
  induction front with
  | nil => rw [List.nil_append, byteLength_nil, Nat.zero_add]
  | cons c rest ih =>
    have wide := c.utf8Size_pos
    have less : c.utf8Size + byteLength rest + offset - c.utf8Size = byteLength rest + offset := by
      omega
    have positive : c.utf8Size + byteLength rest + offset ≠ 0 := by omega
    rw [List.cons_append, byteLength_cons, isBoundary_cons, less, ih]
    simp only [positive, false_or, and_iff_right_iff_imp]
    omega

theorem isBoundary_zero (text : Text) : IsBoundary text 0 := by
  cases text <;> trivial

theorem isBoundary_iff {text : Text} {offset : Nat} :
    IsBoundary text offset ↔ ∃ front back, text = front ++ back ∧ front.byteLength = offset := by
  constructor
  · intro boundary
    induction text generalizing offset with
    | nil =>
      cases offset with
      | zero => exact ⟨[], [], rfl, rfl⟩
      | succ offset => cases boundary
    | cons c rest ih =>
      rcases isBoundary_cons.mp boundary with rfl | ⟨within, later⟩
      · exact ⟨[], c :: rest, rfl, rfl⟩
      · obtain ⟨front, back, rfl, same⟩ := ih later
        refine ⟨c :: front, back, rfl, ?_⟩
        rw [byteLength_cons, same]
        omega
  · rintro ⟨front, back, rfl, rfl⟩
    exact (isBoundary_append front back 0).mpr (isBoundary_zero back)

theorem isBoundary_byteLength (text : Text) : IsBoundary text text.byteLength :=
  isBoundary_iff.mpr ⟨text, [], by simp, rfl⟩

theorem le_byteLength_of_isBoundary {text : Text} {offset : Nat}
    (boundary : IsBoundary text offset) : offset ≤ text.byteLength := by
  obtain ⟨front, back, rfl, rfl⟩ := isBoundary_iff.mp boundary
  rw [byteLength_append]
  omega

theorem dropBytes_append (front back : Text) (count : Nat) :
    (front ++ back).dropBytes (front.byteLength + count) = back.dropBytes count := by
  induction front with
  | nil => rw [List.nil_append, byteLength_nil, Nat.zero_add]
  | cons c rest ih =>
    have wide := c.utf8Size_pos
    have positive : c.utf8Size + byteLength rest + count ≠ 0 := by omega
    have less : c.utf8Size + byteLength rest + count - c.utf8Size = byteLength rest + count := by
      omega
    rw [List.cons_append, byteLength_cons, dropBytes_cons, if_neg positive, less, ih]

theorem dropBytes_zero (text : Text) : text.dropBytes 0 = text := by
  cases text <;> rfl

theorem dropBytes_byteLength (front back : Text) :
    (front ++ back).dropBytes front.byteLength = back := by
  simpa [dropBytes_zero] using dropBytes_append front back 0

theorem takeBytes_byteLength (front back : Text) :
    (front ++ back).takeBytes front.byteLength = front := by
  have whole := takeBytes_append_dropBytes (front ++ back) front.byteLength
  rw [dropBytes_byteLength] at whole
  exact List.append_cancel_right whole

theorem charAt_append (front back : Text) :
    (front ++ back).charAt front.byteLength = back.head? := by
  rw [charAt, dropBytes_byteLength]

theorem byteLength_pos_of_ne_nil {text : Text} (some : text ≠ []) : 0 < text.byteLength := by
  cases text with
  | nil => contradiction
  | cons c rest =>
    have wide := c.utf8Size_pos
    rw [byteLength_cons]
    omega

theorem exists_cons_of_charAt {text : Text} {offset : Nat} {c : Char}
    (boundary : IsBoundary text offset) (here : text.charAt offset = some c) :
    ∃ front back, text = front ++ c :: back ∧ front.byteLength = offset := by
  obtain ⟨front, back, rfl, rfl⟩ := isBoundary_iff.mp boundary
  rw [charAt_append] at here
  obtain ⟨rest, rfl⟩ := List.head?_eq_some_iff.mp here
  exact ⟨front, rest, rfl, rfl⟩

theorem charAt_eq_none_iff {text : Text} {offset : Nat} (boundary : IsBoundary text offset) :
    text.charAt offset = none ↔ offset = text.byteLength := by
  obtain ⟨front, back, rfl, rfl⟩ := isBoundary_iff.mp boundary
  rw [charAt_append, List.head?_eq_none_iff, byteLength_append]
  constructor
  · rintro rfl
    rfl
  · intro same
    by_contra more
    have longer := byteLength_pos_of_ne_nil more
    omega

theorem isBoundary_add_of_charAt {text : Text} {offset : Nat} {c : Char}
    (boundary : IsBoundary text offset) (here : text.charAt offset = some c) :
    IsBoundary text (offset + c.utf8Size) := by
  obtain ⟨front, back, rfl, rfl⟩ := exists_cons_of_charAt boundary here
  refine isBoundary_iff.mpr ⟨front ++ [c], back, by simp, ?_⟩
  rw [byteLength_append, byteLength_cons, byteLength_nil, Nat.add_zero]

theorem add_le_of_isBoundary {text : Text} {offset later : Nat} {c : Char}
    (boundary : IsBoundary text offset) (here : text.charAt offset = some c)
    (other : IsBoundary text later) (less : offset < later) : offset + c.utf8Size ≤ later := by
  obtain ⟨front, back, rfl, rfl⟩ := exists_cons_of_charAt boundary here
  obtain ⟨more, rfl⟩ := Nat.exists_eq_add_of_le (Nat.le_of_lt less)
  rcases isBoundary_cons.mp ((isBoundary_append front _ more).mp other) with rfl | ⟨within, _⟩
  · omega
  · omega

theorem isBoundary_floorBoundary (text : Text) (offset : Nat) :
    IsBoundary text (text.floorBoundary offset) := by
  induction text generalizing offset with
  | nil => exact isBoundary_zero []
  | cons c rest ih =>
    by_cases inside : offset < c.utf8Size
    · rw [floorBoundary_cons, if_pos inside]
      exact isBoundary_zero (c :: rest)
    · rw [floorBoundary_cons, if_neg inside]
      exact isBoundary_cons.mpr (.inr ⟨by omega, by simpa using ih (offset - c.utf8Size)⟩)

theorem floorBoundary_le (text : Text) (offset : Nat) : text.floorBoundary offset ≤ offset := by
  induction text generalizing offset with
  | nil => exact Nat.zero_le offset
  | cons c rest ih =>
    have later := ih (offset - c.utf8Size)
    rw [floorBoundary_cons]
    split <;> omega

theorem le_floorBoundary {text : Text} {offset boundary : Nat} (cut : IsBoundary text boundary)
    (below : boundary ≤ offset) : boundary ≤ text.floorBoundary offset := by
  induction text generalizing offset boundary with
  | nil => exact le_byteLength_of_isBoundary cut
  | cons c rest ih =>
    rcases isBoundary_cons.mp cut with rfl | ⟨within, later⟩
    · exact Nat.zero_le _
    · have inner := ih later (Nat.sub_le_sub_right below c.utf8Size)
      rw [floorBoundary_cons]
      split <;> omega

theorem floorBoundary_eq_self {text : Text} {offset : Nat} (boundary : IsBoundary text offset) :
    text.floorBoundary offset = offset :=
  Nat.le_antisymm (floorBoundary_le text offset) (le_floorBoundary boundary (Nat.le_refl offset))

theorem isBoundary_ceilBoundary (text : Text) (offset : Nat) :
    IsBoundary text (text.ceilBoundary offset) := by
  induction text generalizing offset with
  | nil => exact isBoundary_zero []
  | cons c rest ih =>
    by_cases zero : offset = 0
    · rw [ceilBoundary_cons, if_pos zero]
      exact isBoundary_zero (c :: rest)
    · rw [ceilBoundary_cons, if_neg zero]
      exact isBoundary_cons.mpr (.inr ⟨by omega, by simpa using ih (offset - c.utf8Size)⟩)

theorem ceilBoundary_eq_self {text : Text} {offset : Nat} (boundary : IsBoundary text offset) :
    text.ceilBoundary offset = offset := by
  obtain ⟨front, back, rfl, rfl⟩ := isBoundary_iff.mp boundary
  rw [← byteLength_takeBytes, takeBytes_byteLength]

theorem ceilBoundary_le {text : Text} {offset boundary : Nat} (cut : IsBoundary text boundary)
    (above : offset ≤ boundary) : text.ceilBoundary offset ≤ boundary := by
  induction text generalizing offset boundary with
  | nil => exact Nat.zero_le boundary
  | cons c rest ih =>
    rcases isBoundary_cons.mp cut with rfl | ⟨within, later⟩
    · obtain rfl := Nat.le_zero.mp above
      exact Nat.le_refl 0
    · have inner := ih later (Nat.sub_le_sub_right above c.utf8Size)
      rw [ceilBoundary_cons]
      split <;> omega

theorem min_le_ceilBoundary (text : Text) (offset : Nat) :
    min offset text.byteLength ≤ text.ceilBoundary offset := by
  induction text generalizing offset with
  | nil => exact Nat.min_le_right _ _
  | cons c rest ih =>
    have inner := ih (offset - c.utf8Size)
    rw [ceilBoundary_cons, byteLength_cons]
    split <;> omega

theorem ceilBoundary_le_byteLength (text : Text) (offset : Nat) :
    text.ceilBoundary offset ≤ text.byteLength :=
  le_byteLength_of_isBoundary (isBoundary_ceilBoundary text offset)

theorem isGreatest_floorBoundary (text : Text) (offset : Nat) :
    IsGreatest {cut | text.IsBoundary cut ∧ cut ≤ min offset text.byteLength}
      (text.floorBoundary offset) := by
  have cut := isBoundary_floorBoundary text offset
  constructor
  · exact ⟨cut, Nat.le_min.mpr ⟨floorBoundary_le text offset, le_byteLength_of_isBoundary cut⟩⟩
  · rintro other ⟨cut', below⟩
    exact le_floorBoundary cut' (Nat.le_trans below (Nat.min_le_left _ _))

theorem isLeast_ceilBoundary (text : Text) (offset : Nat) :
    IsLeast {cut | text.IsBoundary cut ∧ min offset text.byteLength ≤ cut}
      (text.ceilBoundary offset) := by
  refine ⟨⟨isBoundary_ceilBoundary text offset, min_le_ceilBoundary text offset⟩, ?_⟩
  rintro other ⟨cut, above⟩
  have inside := le_byteLength_of_isBoundary cut
  rcases Nat.le_total offset text.byteLength with less | less
  · exact ceilBoundary_le cut (by omega)
  · exact Nat.le_trans (ceilBoundary_le_byteLength text offset) (by omega)

theorem floorBoundary_mono (text : Text) {offset later : Nat} (less : offset ≤ later) :
    text.floorBoundary offset ≤ text.floorBoundary later :=
  le_floorBoundary (isBoundary_floorBoundary text offset)
    (Nat.le_trans (floorBoundary_le text offset) less)

theorem ceilBoundary_mono (text : Text) {offset later : Nat} (less : offset ≤ later) :
    text.ceilBoundary offset ≤ text.ceilBoundary later := by
  obtain ⟨cut, above⟩ := (isLeast_ceilBoundary text later).1
  exact (isLeast_ceilBoundary text offset).2 ⟨cut, by omega⟩

theorem floorBoundary_le_ceilBoundary (text : Text) (offset : Nat) :
    text.floorBoundary offset ≤ text.ceilBoundary offset :=
  Nat.le_trans (isGreatest_floorBoundary text offset).1.2 (min_le_ceilBoundary text offset)

-- A lower bound that is moved outwards takes in all code points that end behind it.
theorem floorBoundary_le_iff {text : Text} {offset bound : Nat} {c : Char}
    (boundary : IsBoundary text offset) (here : text.charAt offset = some c) :
    text.floorBoundary bound ≤ offset ↔ bound < offset + c.utf8Size := by
  have ends := isBoundary_add_of_charAt boundary here
  have wide := c.utf8Size_pos
  constructor
  · intro before
    by_contra beyond
    have reached := le_floorBoundary ends (Nat.le_of_not_lt beyond)
    omega
  · intro before
    by_contra behind
    have reached := add_le_of_isBoundary boundary here (isBoundary_floorBoundary text bound)
      (Nat.lt_of_not_le behind)
    have below := floorBoundary_le text bound
    omega

-- An upper bound that is moved outwards takes in all code points that begin before it.
theorem lt_ceilBoundary_iff {text : Text} {offset bound : Nat} {c : Char}
    (boundary : IsBoundary text offset) (here : text.charAt offset = some c) :
    offset < text.ceilBoundary bound ↔ offset < bound := by
  have inside := lt_byteLength_of_charAt here
  have reaches := min_le_ceilBoundary text bound
  constructor
  · intro before
    by_contra behind
    have reached := ceilBoundary_le boundary (Nat.le_of_not_lt behind)
    omega
  · intro before
    omega

def slice? (text : Text) (start stop : Nat) : Option Text :=
  if text.IsBoundary start ∧ text.IsBoundary stop ∧ start ≤ stop then some (text.slice start stop)
  else none

theorem slice_append (front middle back : Text) :
    (front ++ (middle ++ back)).slice front.byteLength (front ++ middle).byteLength = middle := by
  rw [slice, dropBytes_byteLength, byteLength_append, Nat.add_sub_cancel_left,
    takeBytes_byteLength]

theorem slice?_append (front middle back : Text) :
    (front ++ (middle ++ back)).slice? front.byteLength (front ++ middle).byteLength =
      some middle := by
  have start : (front ++ (middle ++ back)).IsBoundary front.byteLength :=
    isBoundary_iff.mpr ⟨front, middle ++ back, rfl, rfl⟩
  have stop : (front ++ (middle ++ back)).IsBoundary (front ++ middle).byteLength :=
    isBoundary_iff.mpr ⟨front ++ middle, back, (List.append_assoc ..).symm, rfl⟩
  have less : front.byteLength ≤ (front ++ middle).byteLength := by
    rw [byteLength_append]
    exact Nat.le_add_right _ _
  rw [slice?, if_pos ⟨start, stop, less⟩, slice_append]

theorem slice_of_slice? {text middle : Text} {start stop : Nat}
    (sliced : text.slice? start stop = some middle) : text.slice start stop = middle :=
  (Option.ite_none_right_eq_some.mp sliced).2 |> Option.some.inj

theorem slice?_to_end {text : Text} {offset : Nat} (boundary : IsBoundary text offset) :
    text.slice? offset text.byteLength = some (text.dropBytes offset) := by
  obtain ⟨front, back, rfl, rfl⟩ := isBoundary_iff.mp boundary
  rw [dropBytes_byteLength]
  simpa using slice?_append front back []

def locatedFrom : Nat → Text → List (Nat × Char)
  | _, [] => []
  | offset, c :: rest => (offset, c) :: locatedFrom (offset + c.utf8Size) rest

def located (text : Text) : List (Nat × Char) :=
  locatedFrom 0 text

theorem locatedFrom_cons (offset : Nat) (c : Char) (rest : Text) :
    locatedFrom offset (c :: rest) = (offset, c) :: locatedFrom (offset + c.utf8Size) rest := rfl

theorem locatedFrom_append (offset : Nat) (front back : Text) :
    locatedFrom offset (front ++ back) =
      locatedFrom offset front ++ locatedFrom (offset + front.byteLength) back := by
  induction front generalizing offset with
  | nil => rfl
  | cons c rest ih =>
    rw [List.cons_append, locatedFrom_cons, ih, locatedFrom_cons, byteLength_cons, Nat.add_assoc,
      List.cons_append]

theorem length_locatedFrom (offset : Nat) (text : Text) :
    (locatedFrom offset text).length = text.length := by
  induction text generalizing offset with
  | nil => rfl
  | cons c rest ih => rw [locatedFrom_cons, List.length_cons, List.length_cons, ih]

theorem mem_locatedFrom_iff {base offset : Nat} {c : Char} {text : Text} :
    (offset, c) ∈ locatedFrom base text ↔
      ∃ front back, text = front ++ c :: back ∧ offset = base + front.byteLength := by
  constructor
  · intro member
    induction text generalizing base with
    | nil => cases member
    | cons d rest ih =>
      rcases List.mem_cons.mp member with same | later
      · obtain ⟨rfl, rfl⟩ := Prod.mk.inj same
        exact ⟨[], rest, rfl, rfl⟩
      · obtain ⟨front, back, rfl, same⟩ := ih later
        exact ⟨d :: front, back, rfl, by rw [same, byteLength_cons, Nat.add_assoc]⟩
  · rintro ⟨front, back, rfl, rfl⟩
    simp [locatedFrom_append, locatedFrom_cons]

theorem mem_located_iff {offset : Nat} {c : Char} {text : Text} :
    (offset, c) ∈ text.located ↔ text.IsBoundary offset ∧ text.charAt offset = some c := by
  rw [located, mem_locatedFrom_iff]
  constructor
  · rintro ⟨front, back, rfl, rfl⟩
    rw [Nat.zero_add]
    exact ⟨isBoundary_iff.mpr ⟨front, c :: back, rfl, rfl⟩, charAt_append front (c :: back)⟩
  · rintro ⟨boundary, here⟩
    obtain ⟨front, back, rfl, rfl⟩ := exists_cons_of_charAt boundary here
    exact ⟨front, back, rfl, by rw [Nat.zero_add]⟩

end Terminator.Text
