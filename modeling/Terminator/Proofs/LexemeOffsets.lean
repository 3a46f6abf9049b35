import Terminator.Lexeme.Piece
import Terminator.Proofs.TextBoundaries

set_option autoImplicit false

namespace Terminator

namespace Piece

theorem text_ne_nil {source : Text} {piece : Piece} (member : piece ∈ ofText source) :
    piece.text ≠ [] := by
  fun_induction ofText source with
  | case1 => cases member
  | case2 first rest cutting ih =>
    rcases List.mem_cons.mp member with rfl | later
    · exact List.cons_ne_nil _ _
    · exact ih later

theorem lexemesFrom_cons (start : Nat) (piece : Piece) (rest : List Piece) :
    lexemesFrom start (piece :: rest) =
      (piece.kind.toList.map fun kind => { kind, start, text := piece.text }) ++
        lexemesFrom (start + piece.text.byteLength) rest := by
  rw [lexemesFrom]
  cases piece.kind <;> rfl

theorem exists_piece_of_lexemesFrom {start : Nat} {pieces : List Piece}
    {before after : List Lexeme} {lexeme : Lexeme}
    (split : lexemesFrom start pieces = before ++ lexeme :: after) :
    ∃ front back,
      pieces = front ++ { kind := some lexeme.kind, text := lexeme.text } :: back ∧
        lexeme.start = start + Text.byteLength (front.flatMap (·.text)) ∧
        after = lexemesFrom lexeme.stop back := by
  induction pieces generalizing start before with
  | nil => simp [lexemesFrom] at split
  | cons piece rest ih =>
    have onward {earlier : List Lexeme}
        (later : lexemesFrom (start + piece.text.byteLength) rest = earlier ++ lexeme :: after) :
        ∃ front back,
          piece :: rest = front ++ { kind := some lexeme.kind, text := lexeme.text } :: back ∧
            lexeme.start = start + Text.byteLength (front.flatMap (·.text)) ∧
            after = lexemesFrom lexeme.stop back := by
      obtain ⟨front, back, rfl, begins, behind⟩ := ih later
      refine ⟨piece :: front, back, rfl, ?_, behind⟩
      rw [begins, List.flatMap_cons, Text.byteLength_append, Nat.add_assoc]
    obtain ⟨kind, text⟩ := piece
    rw [lexemesFrom_cons] at split
    cases kind with
    | none => exact onward split
    | some kind =>
      cases before with
      | cons head earlier => exact onward (List.cons.inj split).2
      | nil =>
        obtain ⟨rfl, rfl⟩ := List.cons.inj split
        exact ⟨[], rest, rfl, rfl, rfl⟩

theorem exists_piece_of_mem {start : Nat} {pieces : List Piece} {lexeme : Lexeme}
    (member : lexeme ∈ lexemesFrom start pieces) :
    ∃ front back,
      pieces = front ++ { kind := some lexeme.kind, text := lexeme.text } :: back ∧
        lexeme.start = start + Text.byteLength (front.flatMap (·.text)) := by
  obtain ⟨before, after, split⟩ := List.append_of_mem member
  obtain ⟨front, back, whole, begins, _⟩ := exists_piece_of_lexemesFrom split
  exact ⟨front, back, whole, begins⟩

end Piece

namespace Lexeme

theorem exists_cut {source : Text} {lexeme : Lexeme} (member : lexeme ∈ ofText source) :
    ∃ before after, source = before ++ (lexeme.text ++ after) ∧
      lexeme.start = before.byteLength := by
  obtain ⟨front, back, pieces, begins⟩ := Piece.exists_piece_of_mem member
  have whole := Piece.flatMap_text_ofText source
  rw [pieces, List.flatMap_append, List.flatMap_cons] at whole
  exact ⟨_, _, whole.symm, by rw [begins, Nat.zero_add]⟩

theorem slice?_span {source : Text} {lexeme : Lexeme} (member : lexeme ∈ ofText source) :
    source.slice? lexeme.start lexeme.stop = some lexeme.text := by
  obtain ⟨before, after, same, start⟩ := exists_cut member
  have cut := Text.slice?_append before lexeme.text after
  rwa [← same, Text.byteLength_append, ← start, ← stop] at cut

theorem isBoundary_start {source : Text} {lexeme : Lexeme} (member : lexeme ∈ ofText source) :
    source.IsBoundary lexeme.start := by
  obtain ⟨before, after, same, start⟩ := exists_cut member
  exact Text.isBoundary_iff.mpr ⟨before, lexeme.text ++ after, same, start.symm⟩

theorem isBoundary_stop {source : Text} {lexeme : Lexeme} (member : lexeme ∈ ofText source) :
    source.IsBoundary lexeme.stop := by
  obtain ⟨before, after, same, start⟩ := exists_cut member
  refine Text.isBoundary_iff.mpr ⟨before ++ lexeme.text, after, ?_, ?_⟩
  · rw [same, List.append_assoc]
  · rw [stop, start, Text.byteLength_append]

theorem start_le_of_mem_lexemesFrom {start : Nat} {pieces : List Piece} {lexeme : Lexeme}
    (member : lexeme ∈ Piece.lexemesFrom start pieces) : start ≤ lexeme.start := by
  obtain ⟨_, _, _, begins⟩ := Piece.exists_piece_of_mem member
  rw [begins]
  exact Nat.le_add_right _ _

theorem start_lt_stop_of_mem_lexemesFrom {start : Nat} {pieces : List Piece} {lexeme : Lexeme}
    (nonempty : ∀ piece ∈ pieces, piece.text ≠ [])
    (member : lexeme ∈ Piece.lexemesFrom start pieces) : lexeme.start < lexeme.stop := by
  obtain ⟨_, _, rfl, _⟩ := Piece.exists_piece_of_mem member
  have wide := nonempty { kind := some lexeme.kind, text := lexeme.text } (by simp)
  exact Nat.lt_add_of_pos_right (Text.byteLength_pos_of_ne_nil wide)

theorem start_lt_stop {source : Text} {lexeme : Lexeme} (member : lexeme ∈ ofText source) :
    lexeme.start < lexeme.stop :=
  start_lt_stop_of_mem_lexemesFrom (fun _ => Piece.text_ne_nil) member

theorem pairwise_lexemesFrom (start : Nat) (pieces : List Piece) :
    (Piece.lexemesFrom start pieces).Pairwise fun first later => first.stop ≤ later.start := by
  induction pieces generalizing start with
  | nil => exact List.Pairwise.nil
  | cons piece rest ih =>
    rw [Piece.lexemesFrom]
    cases kind : piece.kind with
    | none => exact ih _
    | some given =>
      exact List.pairwise_cons.mpr ⟨fun later member => start_le_of_mem_lexemesFrom member, ih _⟩

theorem pairwise_stop_lt (source : Text) :
    (ofText source).Pairwise fun first later => first.stop < later.stop := by
  apply (pairwise_lexemesFrom 0 _).imp_of_mem
  intro first later _ inside apart
  exact Nat.lt_of_le_of_lt apart (start_lt_stop inside)

end Lexeme

end Terminator
