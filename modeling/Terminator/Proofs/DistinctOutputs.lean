import Terminator.Proofs.CaretPlaces

set_option autoImplicit false

namespace Terminator

attribute [ext] Place Insertion Report

namespace Text

theorem append_inj_of_stop {left right front back : Text} (holds : Char → Bool)
    (inLeft : ∀ c ∈ left, holds c = true) (inRight : ∀ c ∈ right, holds c = true)
    (atFront : front.head?.all (fun c => !holds c) = true)
    (atBack : back.head?.all (fun c => !holds c) = true)
    (same : left ++ front = right ++ back) : left = right ∧ front = back := by
  have stopped (text rest : Text) (inText : ∀ c ∈ text, holds c = true)
      (atRest : rest.head?.all (fun c => !holds c) = true) :
      (text ++ rest).takeWhile holds = text := by
    rw [List.takeWhile_append_of_pos inText]
    cases rest with
    | nil => simp
    | cons c rest =>
      have stop : ¬holds c = true := by simpa using atRest
      rw [List.takeWhile_cons_of_neg stop, List.append_nil]
  have whole : left = right := by
    rw [← stopped left front inLeft atFront, same, stopped right back inRight atBack]
  rw [whole] at same
  exact ⟨whole, List.append_cancel_left same⟩

theorem decimal_append_inj {left right : Nat} {front back : Text}
    (atFront : front.head?.all (fun c => !isAsciiDigit c) = true)
    (atBack : back.head?.all (fun c => !isAsciiDigit c) = true)
    (same : decimal left ++ front = decimal right ++ back) : left = right ∧ front = back := by
  obtain ⟨digits, rest⟩ := append_inj_of_stop isAsciiDigit
    (fun _ => isAsciiDigit_of_mem_decimal) (fun _ => isAsciiDigit_of_mem_decimal) atFront atBack
    same
  refine ⟨?_, rest⟩
  rw [← decimalValue_decimal left, digits, decimalValue_decimal]

theorem of_injective : Function.Injective of := by
  intro left right same
  rw [of, of] at same
  exact String.toList_inj.mp same

end Text

namespace Reason

theorem describe_injective : Function.Injective describe := by
  have found (reason : Reason) :
      all.find? (fun other => other.describe = reason.describe) = some reason := by
    cases reason <;> decide
  intro left right same
  have both := found left
  rw [same, found right] at both
  exact (Option.some.inj both).symm

theorem name_injective : Function.Injective name := by
  intro left right same
  have both := ofName?_name left
  rw [same, ofName?_name right] at both
  exact (Option.some.inj both).symm

end Reason

namespace Report

def heading (insertion : Insertion) : Place × Reason :=
  (insertion.place, insertion.reason)

theorem headline_append_inj {left right : Insertion} {front back : Text}
    (same : headline left ++ front = headline right ++ back) :
    heading left = heading right ∧ front = back := by
  simp only [headline, List.append_assoc] at same
  obtain ⟨line, same⟩ := Text.decimal_append_inj rfl rfl same
  obtain ⟨column, same⟩ := Text.decimal_append_inj rfl rfl (List.append_cancel_left same)
  have plain (reason : Reason) : ∀ c ∈ Text.of reason.describe, decide (c ≠ '\n') = true := by
    intro c member
    exact decide_eq_true fun newline => newline_not_mem_describe reason (newline ▸ member)
  obtain ⟨words, same⟩ := Text.append_inj_of_stop (· ≠ '\n') (plain _) (plain _) rfl rfl
    (List.append_cancel_left same)
  refine ⟨?_, List.append_cancel_left same⟩
  have reason := Reason.describe_injective (Text.of_injective words)
  have place : left.place = right.place := Place.ext line column
  rw [heading, heading, place, reason]

def below (source : Text) (withContext : Bool) (insertion : Insertion) : Except RenderError Text :=
  if withContext then context source insertion else .ok []

theorem below_congr {source : Text} {withContext : Bool} {left right : Insertion}
    (same : heading left = heading right) :
    below source withContext left = below source withContext right := by
  have place : left.place = right.place := congrArg Prod.fst same
  simp only [below, context, place]

theorem exists_of_render_cons {source : Text} {withContext : Bool} {insertion : Insertion}
    {rest : List Insertion} {text : Text}
    (rendered : renderInsertions source withContext (insertion :: rest) = .ok text) :
    ∃ shown later, below source withContext insertion = .ok shown ∧
      renderInsertions source withContext rest = .ok later ∧
      text = headline insertion ++ (shown ++ later) := by
  have step : renderInsertions source withContext (insertion :: rest) =
      (below source withContext insertion).bind fun shown =>
        (renderInsertions source withContext rest).bind fun later =>
          .ok (headline insertion ++ shown ++ later) := by
    cases withContext <;> rfl
  rw [step] at rendered
  cases first : below source withContext insertion with
  | error problem => simp [first, Except.bind] at rendered
  | ok shown =>
    cases others : renderInsertions source withContext rest with
    | error problem => simp [first, others, Except.bind] at rendered
    | ok later =>
      refine ⟨shown, later, rfl, rfl, ?_⟩
      simpa [first, others, Except.bind, eq_comm] using rendered

theorem headline_ne_nil (insertion : Insertion) (rest : Text) :
    headline insertion ++ rest ≠ [] := by
  simp [headline]

theorem headings_of_render {source : Text} {withContext : Bool} {left right : List Insertion}
    {text : Text} (rendered : renderInsertions source withContext left = .ok text)
    (rendered' : renderInsertions source withContext right = .ok text) :
    left.map heading = right.map heading := by
  induction left generalizing right text with
  | nil =>
    obtain rfl := Except.ok.inj rendered
    cases right with
    | nil => rfl
    | cons insertion rest =>
      obtain ⟨shown, later, _, _, whole⟩ := exists_of_render_cons rendered'
      exact absurd whole.symm (headline_ne_nil insertion _)
  | cons insertion rest ih =>
    obtain ⟨shown, later, first, others, rfl⟩ := exists_of_render_cons rendered
    cases right with
    | nil => exact absurd (Except.ok.inj rendered').symm (headline_ne_nil insertion _)
    | cons insertion' rest' =>
      obtain ⟨shown', later', first', others', whole⟩ := exists_of_render_cons rendered'
      obtain ⟨same, behind⟩ := headline_append_inj whole
      rw [below_congr same, first'] at first
      obtain rfl := Except.ok.inj first
      rw [List.append_cancel_left behind] at others
      rw [List.map_cons, List.map_cons, same, ih others others']

variable {source : Text}

theorem eq_of_heading {left right : Insertion} (points : PointsAt source left)
    (points' : PointsAt source right) (same : heading left = heading right) : left = right := by
  have place : left.place = right.place := congrArg Prod.fst same
  have reason : left.reason = right.reason := congrArg Prod.snd same
  have offset : left.offset = right.offset := by
    apply (Text.strictMonoOn_key_place source).injOn points.boundary points'.boundary
    simp only [← points.place, ← points'.place, place]
  exact Insertion.ext offset place reason

theorem eq_of_headings {left right : List Insertion}
    (points : ∀ insertion ∈ left, PointsAt source insertion)
    (points' : ∀ insertion ∈ right, PointsAt source insertion)
    (same : left.map heading = right.map heading) : left = right := by
  induction left generalizing right with
  | nil => exact (List.map_eq_nil_iff.mp same.symm).symm
  | cons insertion rest ih =>
    cases right with
    | nil => cases same
    | cons insertion' rest' =>
      obtain ⟨here, later⟩ := List.forall_mem_cons.mp points
      obtain ⟨here', later'⟩ := List.forall_mem_cons.mp points'
      obtain ⟨first, others⟩ := List.cons.inj same
      rw [eq_of_heading here here' first, ih later later' others]

theorem jsonNumber_append_inj {name : String} {left right : Nat} {separator front back : Text}
    (comma : separator.head? = some ',')
    (same : jsonField name (Text.decimal left) ++ (separator ++ front) =
      jsonField name (Text.decimal right) ++ (separator ++ back)) :
    left = right ∧ front = back := by
  have stop (rest : Text) :
      (separator ++ rest).head?.all (fun c => !Text.isAsciiDigit c) = true := by
    rw [List.head?_append, comma]
    rfl
  simp only [jsonField, List.append_assoc, List.append_cancel_left_eq] at same
  obtain ⟨number, same⟩ := Text.decimal_append_inj (stop front) (stop back) same
  exact ⟨number, List.append_cancel_left same⟩

theorem jsonReason_append_inj {left right : Reason} {front back : Text}
    (same : jsonField "reason" (['"'] ++ Text.of left.name ++ ['"']) ++ front =
      jsonField "reason" (['"'] ++ Text.of right.name ++ ['"']) ++ back) :
    left = right ∧ front = back := by
  have plain (reason : Reason) : ∀ c ∈ Text.of reason.name, decide (c ≠ '"') = true := by
    apply List.all_eq_true.mp
    cases reason <;> decide +kernel
  simp only [jsonField, List.append_assoc, List.append_cancel_left_eq] at same
  obtain ⟨name, same⟩ := Text.append_inj_of_stop (· ≠ '"') (plain left) (plain right) rfl rfl same
  exact ⟨Reason.name_injective (Text.of_injective name), List.append_cancel_left same⟩

theorem jsonInsertion_append_inj {left right : Insertion} {front back : Text}
    (same : jsonInsertion left ++ front = jsonInsertion right ++ back) :
    left = right ∧ front = back := by
  have comma : (Text.of ",\n      ").head? = some ',' := by simp [Text.of]
  simp only [jsonInsertion, List.append_assoc, List.append_cancel_left_eq] at same
  obtain ⟨offset, same⟩ := jsonNumber_append_inj comma same
  obtain ⟨line, same⟩ := jsonNumber_append_inj comma same
  obtain ⟨column, same⟩ := jsonNumber_append_inj comma same
  obtain ⟨reason, same⟩ := jsonReason_append_inj same
  exact ⟨Insertion.ext offset (Place.ext line column) reason, List.append_cancel_left same⟩

theorem jsonItems_append_inj {left right : List Insertion} {close front back : Text}
    (newline : close.head? = some '\n')
    (same : left.flatMap (fun insertion => [',', '\n'] ++ jsonInsertion insertion) ++
        (close ++ front) =
      right.flatMap (fun insertion => [',', '\n'] ++ jsonInsertion insertion) ++
        (close ++ back)) :
    left = right := by
  have apart (insertion : Insertion) (rest tail : Text) :
      close ++ tail ≠ [',', '\n'] ++ jsonInsertion insertion ++ rest := by
    intro same
    have heads := congrArg List.head? same
    simp [newline] at heads
  induction left generalizing right with
  | nil =>
    cases right with
    | nil => rfl
    | cons insertion rest =>
      rw [List.flatMap_cons, List.append_assoc] at same
      exact absurd same (apart insertion _ front)
  | cons insertion rest ih =>
    cases right with
    | nil =>
      rw [List.flatMap_cons, List.append_assoc] at same
      exact absurd same.symm (apart insertion _ back)
    | cons insertion' rest' =>
      simp only [List.flatMap_cons, List.append_assoc, List.append_cancel_left_eq] at same
      obtain ⟨rfl, others⟩ := jsonInsertion_append_inj same
      rw [ih others]

theorem jsonList_append_inj {left right : List Insertion} {front back : Text}
    (same : jsonList left ++ front = jsonList right ++ back) : left = right := by
  have opening : Text.of "[\n" = ['[', '\n'] := by simp [Text.of]
  have newline : (Text.of "\n  ]").head? = some '\n' := by simp [Text.of]
  cases left with
  | nil =>
    cases right with
    | nil => rfl
    | cons insertion rest => simp [jsonList, opening] at same
  | cons insertion rest =>
    cases right with
    | nil => simp [jsonList, opening] at same
    | cons insertion' rest' =>
      simp only [jsonList, List.append_assoc, List.append_cancel_left_eq] at same
      obtain ⟨rfl, others⟩ := jsonInsertion_append_inj same
      rw [jsonItems_append_inj newline others]

theorem toJson_injective : Function.Injective toJson := by
  intro left right same
  have comma : (Text.of ",\n  ").head? = some ',' := by simp [Text.of]
  simp only [toJson, List.append_assoc, List.append_cancel_left_eq] at same
  obtain ⟨sites, same⟩ := jsonNumber_append_inj comma same
  simp only [jsonField, List.append_assoc, List.append_cancel_left_eq] at same
  exact Report.ext sites (jsonList_append_inj same)

/-- What is written of a report tells what is in it. Line, column and reason of each insertion are
told by the rendered text, and its offset too if the source was surveyed. The JSON text tells
everything. -/
theorem outputs_tell_reports (source : Text) :
    (∀ withContext mode scope mode' scope',
      (ofSource source mode scope).render source withContext =
          (ofSource source mode' scope').render source withContext →
        (ofSource source mode scope).insertions = (ofSource source mode' scope').insertions) ∧
      (∀ withContext (left right : Report) text, left.render source withContext = .ok text →
        right.render source withContext = .ok text →
          left.insertions.map heading = right.insertions.map heading) ∧
      Function.Injective toJson := by
  refine ⟨?_, fun _ left right text rendered rendered' => headings_of_render rendered rendered',
    toJson_injective⟩
  intro withContext mode scope mode' scope' same
  have located : ∀ insertion ∈ (ofSource source mode scope).insertions, Located source insertion :=
    fun insertion member => located_of_mem member
  obtain ⟨text, rendered⟩ := render_of_located located withContext
  have rendered' : (ofSource source mode' scope').render source withContext = .ok text :=
    same ▸ rendered
  exact eq_of_headings (fun insertion member => pointsAt_of_mem member)
    (fun insertion member => pointsAt_of_mem member) (headings_of_render rendered rendered')

-- The second line of the source looks like the line of another insertion.
theorem outputs_of_misleading_line :
    let source := Text.of "a\n1:2 end of input"
    let left : Report := { sitesChecked := 1, insertions := [⟨0, ⟨1, 2⟩, .increment⟩] }
    let right : Report := { sitesChecked := 2, insertions := [⟨9, ⟨1, 2⟩, .increment⟩] }
    (ofSource source .tokenEnd none).render source true =
        (ofSource source .lineEnd none).render source true ∧
      (ofSource source .tokenEnd none).insertions = (ofSource source .lineEnd none).insertions ∧
      left.render source false = .ok (Text.of "1:2 increment\n") ∧
      right.render source false = .ok (Text.of "1:2 increment\n") ∧
      left.insertions.map heading = right.insertions.map heading := by
  intro source left right
  have same : (ofSource source .tokenEnd none).render source true =
      (ofSource source .lineEnd none).render source true := by decide +kernel
  have rendered : left.render source false = .ok (Text.of "1:2 increment\n") := by decide +kernel
  have rendered' : right.render source false = .ok (Text.of "1:2 increment\n") := by decide +kernel
  obtain ⟨surveys, reports, _⟩ := outputs_tell_reports source
  exact ⟨same, surveys true _ _ _ _ same, rendered, rendered',
    reports false left right _ rendered rendered'⟩

end Report

end Terminator
