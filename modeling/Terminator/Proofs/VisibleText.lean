import Terminator.Proofs.SpanNormalForm

set_option autoImplicit false

namespace Terminator

def InScope : Option (List Span) → Nat → Prop
  | none, _ => True
  | some spans, offset => ∃ span ∈ spans, span.start ≤ offset ∧ offset < span.stop

instance (scope : Option (List Span)) : DecidablePred (InScope scope) :=
  match scope with
  | none => fun _ => .isTrue trivial
  | some spans => fun offset =>
    List.decidableBEx (fun span : Span => span.start ≤ offset ∧ offset < span.stop) spans

def textOf (source : Text) (spans : List Span) : Text :=
  spans.flatMap fun span => source.slice span.start span.stop

def visibleText (source : Text) : Option (List Span) → Text
  | none => source
  | some spans => textOf source spans

def spanPlaces (source : Text) : Option (List Span) → List Nat
  | none => []
  | some spans =>
    (List.range' 1 (spans.length - 1)).map fun index => (textOf source (spans.take index)).length

def visiblePoints (source : Text) (scope : Option (List Span)) : List (Nat × Char) :=
  source.located.filter fun point => InScope scope point.1

def visibleBefore (source : Text) (scope : Option (List Span)) (offset : Nat) : Nat :=
  (visiblePoints source scope).countP fun point => point.1 + point.2.utf8Size ≤ offset

def NormalScope (source : Text) (scope : Option (List Span)) : Prop :=
  ∀ spans, scope = some spans → Span.Normal source spans

namespace Text

theorem exists_slice {source : Text} {start stop : Nat} (cut : source.IsBoundary start)
    (cut' : source.IsBoundary stop) (ordered : start ≤ stop) :
    ∃ front back, source = front ++ (source.slice start stop ++ back) ∧
      front.byteLength = start ∧ start + (source.slice start stop).byteLength = stop := by
  obtain ⟨front, tail, rfl, rfl⟩ := isBoundary_iff.mp cut
  obtain ⟨count, rfl⟩ := Nat.exists_eq_add_of_le ordered
  obtain ⟨middle, back, rfl, rfl⟩ := isBoundary_iff.mp ((isBoundary_append front tail count).mp cut')
  have sliced : slice (front ++ (middle ++ back)) front.byteLength
      (front.byteLength + middle.byteLength) = middle := by
    rw [slice, dropBytes_byteLength, Nat.add_sub_cancel_left, takeBytes_byteLength]
  refine ⟨front, back, ?_, rfl, ?_⟩ <;> rw [sliced]

theorem bounds_of_mem_locatedFrom {base : Nat} {text : Text} {point : Nat × Char}
    (member : point ∈ locatedFrom base text) :
    base ≤ point.1 ∧ point.1 + point.2.utf8Size ≤ base + text.byteLength := by
  obtain ⟨front, back, rfl, same⟩ := mem_locatedFrom_iff.mp member
  rw [same, byteLength_append, byteLength_cons]
  omega

theorem pairwise_locatedFrom (base : Nat) (text : Text) :
    (locatedFrom base text).Pairwise fun first later => first.1 + first.2.utf8Size ≤ later.1 := by
  induction text generalizing base with
  | nil => exact List.Pairwise.nil
  | cons c rest ih =>
    refine List.pairwise_cons.mpr ⟨fun point member => ?_, ih _⟩
    exact (bounds_of_mem_locatedFrom member).1

theorem map_locatedFrom (base : Nat) (text : Text) : (locatedFrom base text).map Prod.snd = text := by
  induction text generalizing base with
  | nil => rfl
  | cons c rest ih => rw [locatedFrom_cons, List.map_cons, ih]

theorem mem_locatedFrom_slice {source : Text} {start stop : Nat} (cut : source.IsBoundary start)
    (cut' : source.IsBoundary stop) (ordered : start ≤ stop) {point : Nat × Char} :
    point ∈ locatedFrom start (source.slice start stop) ↔
      point ∈ source.located ∧ start ≤ point.1 ∧ point.1 < stop := by
  obtain ⟨front, back, whole, begins, ends⟩ := exists_slice cut cut' ordered
  have wide := point.2.utf8Size_pos
  have parts : source.located = locatedFrom 0 front ++
      (locatedFrom start (source.slice start stop) ++ locatedFrom stop back) := by
    conv_lhs => rw [whole]
    rw [located, locatedFrom_append, locatedFrom_append, Nat.zero_add, begins, ends]
  rw [parts]
  constructor
  · intro member
    have bounds := bounds_of_mem_locatedFrom member
    exact ⟨by simp [member], bounds.1, by omega⟩
  · rintro ⟨member, after, before⟩
    rcases List.mem_append.mp member with early | member
    · have bounds := bounds_of_mem_locatedFrom early
      omega
    · rcases List.mem_append.mp member with here | late
      · exact here
      · have bounds := bounds_of_mem_locatedFrom late
        omega

end Text

theorem mem_visiblePoints {source : Text} {scope : Option (List Span)} {offset : Nat} {c : Char} :
    (offset, c) ∈ visiblePoints source scope ↔
      source.IsBoundary offset ∧ source.charAt offset = some c ∧ InScope scope offset := by
  rw [visiblePoints, List.mem_filter, Text.mem_located_iff, decide_eq_true_iff, and_assoc]

theorem eq_of_located {points points' : List (Nat × Char)}
    (ordered : points.Pairwise fun first later => first.1 + first.2.utf8Size ≤ later.1)
    (ordered' : points'.Pairwise fun first later => first.1 + first.2.utf8Size ≤ later.1)
    (same : ∀ point, point ∈ points ↔ point ∈ points') : points = points' := by
  have increasing (first later : Nat × Char) (less : first.1 + first.2.utf8Size ≤ later.1) :
      first.1 < later.1 := by
    have wide := first.2.utf8Size_pos
    omega
  exact @List.Pairwise.eq_of_mem_iff _ (fun first later : Nat × Char => first.1 < later.1)
    inferInstance ⟨fun point => Nat.lt_irrefl point.1⟩ _ _ (ordered.imp (increasing _ _))
    (ordered'.imp (increasing _ _)) same

theorem pairwise_visiblePoints (source : Text) (scope : Option (List Span)) :
    (visiblePoints source scope).Pairwise fun first later =>
      first.1 + first.2.utf8Size ≤ later.1 :=
  (Text.pairwise_locatedFrom 0 source).filter _

theorem pairwise_flatMap_locatedFrom {source : Text} {spans : List Span}
    (normal : Span.Normal source spans) :
    (spans.flatMap fun span => Text.locatedFrom span.start (source.slice span.start span.stop)).Pairwise
      fun first later => first.1 + first.2.utf8Size ≤ later.1 := by
  refine List.pairwise_flatMap.mpr ⟨fun span _ => Text.pairwise_locatedFrom _ _, ?_⟩
  refine normal.apart.imp_of_mem fun {first later} inside inside' apart point here point' here' => ?_
  have wellCut := normal.wellCut first inside
  have ordered := Nat.le_of_lt wellCut.nonempty
  obtain ⟨_, _, _, _, ends⟩ := Text.exists_slice wellCut.start wellCut.stop ordered
  have bounds := Text.bounds_of_mem_locatedFrom here
  have bounds' := Text.bounds_of_mem_locatedFrom here'
  omega

theorem visiblePoints_confined {source : Text} {spans : List Span}
    (normal : Span.Normal source spans) :
    visiblePoints source (some spans) =
      spans.flatMap fun span => Text.locatedFrom span.start (source.slice span.start span.stop) := by
  refine eq_of_located (pairwise_visiblePoints source _) (pairwise_flatMap_locatedFrom normal)
    fun point => ?_
  rw [visiblePoints, List.mem_filter, List.mem_flatMap, decide_eq_true_iff]
  have inPiece : ∀ span ∈ spans,
      (point ∈ Text.locatedFrom span.start (source.slice span.start span.stop) ↔
        point ∈ source.located ∧ span.start ≤ point.1 ∧ point.1 < span.stop) := by
    intro span member
    have wellCut := normal.wellCut span member
    exact Text.mem_locatedFrom_slice wellCut.start wellCut.stop (Nat.le_of_lt wellCut.nonempty)
  constructor
  · rintro ⟨located, span, member, inside⟩
    exact ⟨span, member, (inPiece span member).mpr ⟨located, inside⟩⟩
  · rintro ⟨span, member, here⟩
    obtain ⟨located, inside⟩ := (inPiece span member).mp here
    exact ⟨located, span, member, inside⟩

theorem map_visiblePoints {source : Text} {scope : Option (List Span)}
    (normal : NormalScope source scope) :
    (visiblePoints source scope).map Prod.snd = visibleText source scope := by
  cases scope with
  | none =>
    have all : visiblePoints source none = source.located :=
      List.filter_eq_self.mpr fun _ _ => decide_eq_true trivial
    rw [all, visibleText, Text.located, Text.map_locatedFrom]
  | some spans =>
    rw [visiblePoints_confined (normal spans rfl), List.map_flatMap, visibleText, textOf]
    simp only [Text.map_locatedFrom]

theorem length_visiblePoints {source : Text} {scope : Option (List Span)}
    (normal : NormalScope source scope) :
    (visiblePoints source scope).length = (visibleText source scope).length := by
  rw [← map_visiblePoints normal, List.length_map]

theorem visibleBefore_of_cut {source : Text} {scope : Option (List Span)} {offset : Nat}
    {front back : List (Nat × Char)} (cut : visiblePoints source scope = front ++ back)
    (before : ∀ point ∈ front, point.1 + point.2.utf8Size ≤ offset)
    (behind : ∀ point ∈ back, offset ≤ point.1) :
    visibleBefore source scope offset = front.length := by
  have all : front.countP (fun point => point.1 + point.2.utf8Size ≤ offset) = front.length :=
    List.countP_eq_length.mpr fun point member => decide_eq_true (before point member)
  have none : back.countP (fun point => point.1 + point.2.utf8Size ≤ offset) = 0 := by
    apply List.countP_eq_zero.mpr
    intro point member
    have wide := point.2.utf8Size_pos
    have later := behind point member
    simp only [decide_eq_true_eq]
    omega
  rw [visibleBefore, cut, List.countP_append, all, none, Nat.add_zero]

-- The cut goes right before a visible code point.
theorem exists_cut {source : Text} {scope : Option (List Span)} {offset : Nat} {c : Char}
    (member : (offset, c) ∈ visiblePoints source scope) :
    ∃ front back, visiblePoints source scope = front ++ (offset, c) :: back ∧
      visibleBefore source scope offset = front.length ∧
      (∀ earlier ∈ front, earlier.1 + earlier.2.utf8Size ≤ offset) ∧
      (∀ later ∈ back, offset + c.utf8Size ≤ later.1) := by
  obtain ⟨front, back, cut⟩ := List.append_of_mem member
  have ordered := pairwise_visiblePoints source scope
  rw [cut, List.pairwise_append, List.pairwise_cons] at ordered
  obtain ⟨_, ⟨behind, _⟩, across⟩ := ordered
  have before : ∀ earlier ∈ front, earlier.1 + earlier.2.utf8Size ≤ offset :=
    fun earlier inFront => across earlier inFront (offset, c) (by simp)
  refine ⟨front, back, cut, visibleBefore_of_cut cut before fun point inBack => ?_, before, behind⟩
  rcases List.mem_cons.mp inBack with rfl | later
  · exact Nat.le_refl _
  · exact Nat.le_trans (Nat.le_add_right _ _) (behind point later)

theorem getElem?_visibleBefore {source : Text} {scope : Option (List Span)}
    (normal : NormalScope source scope) {offset : Nat} {c : Char}
    (member : (offset, c) ∈ visiblePoints source scope) :
    (visibleText source scope)[visibleBefore source scope offset]? = some c := by
  obtain ⟨front, back, cut, counted, _, _⟩ := exists_cut member
  rw [← map_visiblePoints normal, cut, counted]
  simp

theorem visibleBefore_of_next {source : Text} {scope : Option (List Span)} {offset next : Nat}
    {c : Char} (member : (offset, c) ∈ visiblePoints source scope)
    (reaches : offset + c.utf8Size ≤ next)
    (hidden : ∀ point ∈ visiblePoints source scope, offset < point.1 → next ≤ point.1) :
    visibleBefore source scope next = visibleBefore source scope offset + 1 := by
  obtain ⟨front, back, cut, counted, before, behind⟩ := exists_cut member
  have wide := c.utf8Size_pos
  have cut' : visiblePoints source scope = (front ++ [(offset, c)]) ++ back := by simp [cut]
  rw [counted, visibleBefore_of_cut cut', List.length_append, List.length_singleton]
  · intro point inFront
    rcases List.mem_append.mp inFront with earlier | same
    · have less := before point earlier
      omega
    · obtain rfl := List.mem_singleton.mp same
      exact reaches
  · intro point inBack
    have later := behind point inBack
    exact hidden point (by simp [cut, inBack]) (by omega)

theorem visibleBefore_of_ended {source : Text} {scope : Option (List Span)}
    (normal : NormalScope source scope) :
    visibleBefore source scope source.byteLength = (visibleText source scope).length := by
  rw [← length_visiblePoints normal]
  refine visibleBefore_of_cut (List.append_nil _).symm (fun point member => ?_) (by simp)
  have located := (List.mem_filter.mp member).1
  simpa using (Text.bounds_of_mem_locatedFrom located).2

theorem visibleBefore_mono (source : Text) (scope : Option (List Span)) {offset later : Nat}
    (less : offset ≤ later) :
    visibleBefore source scope offset ≤ visibleBefore source scope later := by
  apply List.countP_mono_left
  intro point _ before
  rw [decide_eq_true_eq] at before ⊢
  exact Nat.le_trans before less

theorem visibleBefore_lt {source : Text} {scope : Option (List Span)} {offset later : Nat}
    {c : Char} (member : (offset, c) ∈ visiblePoints source scope)
    (boundary : source.IsBoundary later) (less : offset < later) :
    visibleBefore source scope offset < visibleBefore source scope later := by
  obtain ⟨cut, here, _⟩ := mem_visiblePoints.mp member
  have reaches := Text.add_le_of_isBoundary cut here boundary less
  have next := visibleBefore_of_next member (Nat.le_refl _) fun point visible behind => by
    obtain ⟨cut', _, _⟩ := mem_visiblePoints.mp visible
    exact Text.add_le_of_isBoundary cut here cut' behind
  have more := visibleBefore_mono source scope reaches
  omega

theorem eq_of_visibleBefore_eq {source : Text} {scope : Option (List Span)} {offset later : Nat}
    {c d : Char} (member : (offset, c) ∈ visiblePoints source scope)
    (member' : (later, d) ∈ visiblePoints source scope)
    (same : visibleBefore source scope offset = visibleBefore source scope later) :
    offset = later := by
  rcases Nat.lt_trichotomy offset later with less | equal | more
  · exact absurd same (Nat.ne_of_lt (visibleBefore_lt member (mem_visiblePoints.mp member').1 less))
  · exact equal
  · exact absurd same (Nat.ne_of_gt (visibleBefore_lt member' (mem_visiblePoints.mp member).1 more))

theorem exists_visible_start {source : Text} {spans : List Span} {span : Span}
    (normal : Span.Normal source spans) (member : span ∈ spans) :
    ∃ c, (span.start, c) ∈ visiblePoints source (some spans) := by
  have wellCut := normal.wellCut span member
  have nonempty := wellCut.nonempty
  have inside := Text.le_byteLength_of_isBoundary wellCut.stop
  cases here : source.charAt span.start with
  | none =>
    have ended := (Text.charAt_eq_none_iff wellCut.start).mp here
    omega
  | some c => exact ⟨c, mem_visiblePoints.mpr ⟨wellCut.start, here, span, member, by omega, nonempty⟩⟩

theorem length_textOf_take {source : Text} {spans : List Span} (normal : Span.Normal source spans)
    {index : Nat} (inside : index < spans.length) :
    (textOf source (spans.take index)).length =
      visibleBefore source (some spans) spans[index].start := by
  have pieces := visiblePoints_confined normal
  rw [← List.take_append_drop index spans, List.flatMap_append, List.take_append_drop] at pieces
  rw [visibleBefore_of_cut pieces]
  · simp [textOf, List.length_flatMap, Text.length_locatedFrom]
  · intro point member
    obtain ⟨span, early, here⟩ := List.mem_flatMap.mp member
    obtain ⟨place, below, rfl⟩ := List.mem_take_iff_getElem.mp early
    have wellCut := normal.wellCut spans[place] (List.getElem_mem _)
    obtain ⟨_, _, _, _, ends⟩ :=
      Text.exists_slice wellCut.start wellCut.stop (Nat.le_of_lt wellCut.nonempty)
    have bounds := Text.bounds_of_mem_locatedFrom here
    have apart := normal.stop_lt_start (List.getElem?_eq_getElem (by omega))
      (List.getElem?_eq_getElem inside) (show place < index by omega)
    omega
  · intro point member
    obtain ⟨span, late, here⟩ := List.mem_flatMap.mp member
    rw [List.drop_eq_getElem_cons inside] at late
    have split : Span.Normal source
        (spans.take index ++ spans[index] :: spans.drop (index + 1)) := by
      rw [← List.drop_eq_getElem_cons inside, List.take_append_drop]
      exact normal
    exact Nat.le_trans (split.start_le_of_mem late) (Text.bounds_of_mem_locatedFrom here).1

theorem mem_spanPlaces_iff {source : Text} {spans : List Span} (normal : Span.Normal source spans)
    {place : Nat} :
    place ∈ spanPlaces source (some spans) ↔
      ∃ index span, 0 < index ∧ spans[index]? = some span ∧
        visibleBefore source (some spans) span.start = place := by
  simp only [spanPlaces, List.mem_map, List.mem_range'_1]
  constructor
  · rintro ⟨index, ⟨positive, below⟩, rfl⟩
    have inside : index < spans.length := by omega
    exact ⟨index, spans[index], positive, List.getElem?_eq_getElem inside,
      (length_textOf_take normal inside).symm⟩
  · rintro ⟨index, span, positive, found, rfl⟩
    obtain ⟨inside, rfl⟩ := List.getElem?_eq_some_iff.mp found
    exact ⟨index, by omega, length_textOf_take normal inside⟩

end Terminator
