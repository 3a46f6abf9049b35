import Terminator.Proofs.CommentSites

set_option autoImplicit false

namespace Terminator

theorem Text.firstLine_cons (c : Char) (rest : Text) :
    firstLine (c :: rest) = if isLineBreak c then [] else c :: firstLine rest := by
  cases broken : isLineBreak c <;> simp [firstLine, broken]

theorem Piece.all_isBlank_firstLine (text : Text) :
    (Text.firstLine text).all Text.isBlank =
      (Text.firstLine (text.dropWhile isSpace)).all Text.isBlank := by
  induction text with
  | nil => rfl
  | cons c rest ih =>
    cases space : isSpace c with
    | false => rw [List.dropWhile_cons_of_neg (by simp [space])]
    | true =>
      have inline : Cursor.inlineBlank c = true := by rw [← isSpace_eq, space]
      simp only [Cursor.inlineBlank, Bool.and_eq_true, Bool.not_eq_true'] at inline
      rw [List.dropWhile_cons_of_pos space, ← ih, Text.firstLine_cons]
      simp [inline]

theorem Policy.line_is_blank_iff {text : Text}
    (inserts : (reason (View.ofText text)).decision = .insert) :
    (Text.firstLine text).all Text.isBlank = true ↔ reason (View.ofText text) ≠ .closingBrace := by
  rw [reason_ofText] at inserts ⊢
  rw [Piece.all_isBlank_firstLine]
  cases ahead : text.dropWhile Piece.isSpace with
  | nil => simp [Text.firstLine]
  | cons c line =>
    rw [ahead] at inserts
    rw [Text.firstLine_cons]
    by_cases brace : c = '}'
    · have solid : Text.isLineBreak '}' = false ∧ Text.isBlank '}' = false := by decide
      simp [brace, solid]
    · by_cases broken : Text.isLineBreak c = true
      · have apart := apart_of_mem_lineReasons (lineReason_mem line)
        simp [brace, broken, apart.2.1]
      · simp [brace, broken, Reason.decision] at inserts

namespace Survey

variable {source : Text} {scope : Option (List Span)} {lexeme : Lexeme} {insertion : Insertion}

theorem restOfLineIsBlank_iff (member : lexeme ∈ Lexeme.ofText source)
    (fresh : freshInsertion source none lexeme.stop = some insertion) :
    restOfLineIsBlank source lexeme.stop = true ↔ insertion.reason ≠ .closingBrace := by
  obtain ⟨before, after, split⟩ := List.append_of_mem member
  obtain ⟨front, back, rfl, stop, -⟩ := Lexeme.exists_behind split
  rw [← stop] at fresh ⊢
  obtain ⟨reason, inserts⟩ := reason_of_freshInsertion fresh
  rw [reason] at inserts ⊢
  rw [restOfLineIsBlank, Text.dropBytes_byteLength]
  exact Policy.line_is_blank_iff inserts

end Survey

namespace Report

theorem sites_lineEnd (source : Text) (scope : Option (List Span)) :
    sites source .lineEnd scope =
      (sites source .tokenEnd scope).filter (Survey.restOfLineIsBlank source ·.stop) := by
  rw [sites, sites, List.filter_filter]
  apply List.filter_congr
  intro lexeme _
  simp [Survey.isSite, Bool.and_comm]

/-- A survey of line ends finds what a survey of token ends does, without the closing braces. With a
scope it finds a part of that. -/
theorem lineEnd_drops_closing_braces (source : Text) :
    (ofSource source .lineEnd none).insertions =
        (ofSource source .tokenEnd none).insertions.filter (·.reason ≠ .closingBrace) ∧
      ∀ scope,
        (ofSource source .lineEnd scope).sitesChecked ≤
            (ofSource source .tokenEnd scope).sitesChecked ∧
          (ofSource source .lineEnd scope).insertions.Sublist
            (ofSource source .tokenEnd scope).insertions := by
  constructor
  · rw [insertions_ofSource, insertions_ofSource, sites_lineEnd, List.filterMap_filter,
      List.filter_filterMap]
    apply List.filterMap_congr
    intro lexeme site
    have member := (List.mem_filter.mp site).1
    cases fresh : Survey.freshInsertion source none lexeme.stop with
    | none => simp
    | some insertion =>
      have blank := Survey.restOfLineIsBlank_iff member fresh
      by_cases brace : insertion.reason = .closingBrace
      · have text : Survey.restOfLineIsBlank source lexeme.stop = false := by simpa [brace] using blank
        simp [Option.filter_some, brace, text]
      · simp [Option.filter_some, brace, blank.mpr brace]
  · intro scope
    have fewer : (sites source .lineEnd scope).Sublist (sites source .tokenEnd scope) := by
      rw [sites_lineEnd]
      exact List.filter_sublist
    rw [sitesChecked_ofSource, sitesChecked_ofSource, insertions_ofSource, insertions_ofSource]
    exact ⟨fewer.length_le, fewer.filterMap _⟩

end Report

end Terminator
