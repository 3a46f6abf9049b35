import Terminator.Proofs.LexemeOffsets
import Terminator.Proofs.ReaderRefinement

set_option autoImplicit false

namespace Terminator

namespace Piece

theorem ofText_cons (first : Char) (rest : Text) :
    ofText (first :: rest) =
      { kind := (cut first rest).1, text := first :: rest.take (cut first rest).2 } ::
        ofText (rest.drop (cut first rest).2) := by
  rw [ofText]

@[elab_as_elim]
theorem cut_induction {motive : Text → Prop} (nil : motive [])
    (cons : ∀ first rest, motive (rest.drop (cut first rest).2) → motive (first :: rest))
    (text : Text) : motive text :=
  ofText.induct motive nil cons text

theorem isSpace_eq (c : Char) : isSpace c = Cursor.inlineBlank c := by
  have code (d : Char) : (c = d) = (c.toNat = d.toNat) := by rw [Char.toNat_inj]
  have above (d : Char) : (d ≤ c) = (d.toNat ≤ c.toNat) := rfl
  have below (d : Char) : (c ≤ d) = (c.toNat ≤ d.toNat) := rfl
  rw [Bool.eq_iff_iff]
  simp only [isSpace, Cursor.inlineBlank, Text.isBlank, Text.isLineBreak, code, above, below,
    Char.reduceToNat, Bool.or_eq_true, Bool.and_eq_true, Bool.not_eq_true', Bool.or_eq_false_iff,
    decide_eq_true_eq, decide_eq_false_iff_not]
  omega

theorem isBlank_of_isSpace {c : Char} (space : isSpace c = true) : Text.isBlank c = true := by
  rw [isSpace_eq] at space
  exact (Bool.and_eq_true_iff.mp space).1

def Begins (c : Char) (rest : Text) : Option LexemeKind → Prop
  | some .whitespace => isSpace c = true
  | some .lineBreak => Text.isLineBreak c = true
  | some .lineComment => c = '/' ∧ rest.head? = some '/'
  | some .blockComment => c = '/' ∧ rest.head? = some '*'
  | some .stringLiteral => c = '"'
  | some .charLiteral => c = '\''
  | some .templateLiteral => c = '\x60'
  | some .number => Text.isAsciiDigit c = true ∨ c = '.' ∧ (rest.head?).any Text.isAsciiDigit = true
  | some .word => startsWord c = true
  | some .increment => c = '+' ∧ rest.head? = some '+'
  | some .decrement => c = '-' ∧ rest.head? = some '-'
  | some .closeParen => c = ')'
  | some .closeBracket => c = ']'
  | some .closeBrace => c = '}'
  | some .punctuation => isSpace c = false ∧ Text.isLineBreak c = false
  | none => Text.isNumeral c = true ∨ c ∈ ['/', '"', '\'', '\x60']

theorem begins_cutSlash {rest : Text} : Begins '/' rest (cutSlash rest).1 := by
  unfold cutSlash
  split
  · exact ⟨rfl, rfl⟩
  · split
    · exact ⟨rfl, rfl⟩
    · exact .inr (by simp)
  · exact ⟨by decide, by decide⟩

theorem begins_cutQuote {kind : LexemeKind} {quote : Char} {spansLines : Bool} {rest : Text}
    (literal : Begins quote rest (some kind)) (alone : Begins quote rest (some .punctuation))
    (dropped : Begins quote rest none) :
    Begins quote rest (cutQuote kind quote spansLines rest).1 := by
  unfold cutQuote
  split
  · exact literal
  · exact alone
  · exact dropped

theorem begins_ite {c : Char} {rest : Text} {condition : Prop} [Decidable condition]
    {first second : Option LexemeKind × Nat} (holds : condition → Begins c rest first.1)
    (fails : ¬ condition → Begins c rest second.1) :
    Begins c rest (if condition then first else second).1 :=
  iteInduction (motive := fun piece : Option LexemeKind × Nat => Begins c rest piece.1) holds fails

theorem begins_cut (c : Char) (rest : Text) : Begins c rest (cut c rest).1 := by
  unfold cut
  refine begins_ite id fun solid => ?_
  refine begins_ite id fun inline => ?_
  refine begins_ite .inl fun _ => ?_
  refine begins_ite id fun _ => ?_
  refine begins_ite .inl fun _ => ?_
  have quote {kind : LexemeKind} {spansLines : Bool} (mark : c ∈ ['"', '\'', '\x60'])
      (literal : Begins c rest (some kind)) :
      Begins c rest (cutQuote kind c spansLines rest).1 := by
    apply begins_cutQuote literal
    · exact ⟨by simpa using solid, by simpa using inline⟩
    · exact .inr (List.mem_cons_of_mem _ mark)
  refine begins_ite (fun slash => slash ▸ begins_cutSlash) fun _ => ?_
  refine begins_ite (fun double => double ▸ quote (by simp [double]) double) fun _ => ?_
  refine begins_ite (fun single => single ▸ quote (by simp [single]) single) fun _ => ?_
  refine begins_ite (fun template => template ▸ quote (by simp [template]) template) fun _ => ?_
  refine begins_ite (fun point => .inr (by simpa using point)) fun _ => ?_
  refine begins_ite (fun plus => by simpa [Begins] using plus) fun _ => ?_
  refine begins_ite (fun minus => by simpa [Begins] using minus) fun _ => ?_
  refine begins_ite id fun _ => ?_
  refine begins_ite id fun _ => ?_
  refine begins_ite id fun _ => ?_
  exact ⟨by simpa using solid, by simpa using inline⟩

theorem cut_lineBreak {c : Char} (broken : Text.isLineBreak c = true) (rest : Text) :
    cut c rest = (some .lineBreak, 0) := by
  simp only [Text.isLineBreak, Bool.or_eq_true, decide_eq_true_eq] at broken
  rcases broken with (rfl | rfl) | rfl <;> rfl

theorem kind_eq_whitespace_iff {c : Char} {rest : Text} :
    (cut c rest).1 = some .whitespace ↔ isSpace c = true := by
  constructor
  · intro kind
    have begins := begins_cut c rest
    rwa [kind] at begins
  · intro space
    simp [cut, space]

theorem kind_eq_lineBreak_iff {c : Char} {rest : Text} :
    (cut c rest).1 = some .lineBreak ↔ Text.isLineBreak c = true := by
  constructor
  · intro kind
    have begins := begins_cut c rest
    rwa [kind] at begins
  · intro broken
    rw [cut_lineBreak broken]

theorem kind_eq_closeBrace_iff {c : Char} {rest : Text} :
    (cut c rest).1 = some .closeBrace ↔ c = '}' := by
  constructor
  · intro kind
    have begins := begins_cut c rest
    rwa [kind] at begins
  · rintro rfl
    rfl

theorem kind_eq_increment_iff {c : Char} {rest : Text} :
    (cut c rest).1 = some .increment ↔ c = '+' ∧ rest.head? = some '+' := by
  constructor
  · intro kind
    have begins := begins_cut c rest
    rwa [kind] at begins
  · rintro ⟨rfl, again⟩
    simp only [cut, again]
    rfl

theorem kind_eq_decrement_iff {c : Char} {rest : Text} :
    (cut c rest).1 = some .decrement ↔ c = '-' ∧ rest.head? = some '-' := by
  constructor
  · intro kind
    have begins := begins_cut c rest
    rwa [kind] at begins
  · rintro ⟨rfl, again⟩
    simp only [cut, again]
    rfl

theorem kind_eq_number_of_point {rest : Text} :
    (cut '.' rest).1 = some .number ↔ (rest.head?).any Text.isAsciiDigit = true := by
  constructor
  · intro kind
    have begins := begins_cut '.' rest
    rw [kind] at begins
    rcases begins with digit | ⟨_, digit⟩
    · cases digit
    · exact digit
  · intro digit
    simp only [cut, digit]
    rfl

theorem take_run (holds : Char → Bool) (text : Text) :
    text.take (run holds text) = text.takeWhile holds :=
  (List.prefix_iff_eq_take.mp (List.takeWhile_prefix holds)).symm

theorem drop_run (holds : Char → Bool) (text : Text) :
    text.drop (run holds text) = text.dropWhile holds := by
  have behind := @List.drop_left _ (text.takeWhile holds) (text.dropWhile holds)
  rwa [List.takeWhile_append_dropWhile] at behind

theorem ofText_of_isSpace {c : Char} (space : isSpace c = true) (rest : Text) :
    ofText (c :: rest) =
      { kind := some .whitespace, text := c :: rest.takeWhile isSpace } ::
        ofText (rest.dropWhile isSpace) := by
  have whitespace : cut c rest = (some .whitespace, run isSpace rest) := by simp [cut, space]
  rw [ofText_cons, whitespace, take_run, drop_run]

theorem exists_spaces_passed (start : Nat) (text : Text) :
    ∃ spaces : List Lexeme,
      lexemesFrom start (ofText text) =
          spaces ++ lexemesFrom (start + Text.byteLength (text.takeWhile isSpace))
            (ofText (text.dropWhile isSpace)) ∧
        ∀ lexeme ∈ spaces, lexeme.kind = .whitespace ∧
          lexeme.stop = start + Text.byteLength (text.takeWhile isSpace) := by
  cases text with
  | nil => exact ⟨[], by simp [Text.byteLength_nil], by simp⟩
  | cons c rest =>
    by_cases space : isSpace c = true
    · rw [ofText_of_isSpace space, List.takeWhile_cons_of_pos space,
        List.dropWhile_cons_of_pos space, lexemesFrom_cons]
      exact ⟨_, rfl, by simp [Lexeme.stop]⟩
    · rw [List.takeWhile_cons_of_neg space, List.dropWhile_cons_of_neg space]
      exact ⟨[], by simp [Text.byteLength_nil], by simp⟩

theorem lexemesFrom_of_kind {start : Nat} {c : Char} {rest : Text} {kind : LexemeKind}
    (given : (cut c rest).1 = some kind) :
    lexemesFrom start (ofText (c :: rest)) =
      { kind, start, text := c :: rest.take (cut c rest).2 } ::
        lexemesFrom (start + Text.byteLength (c :: rest.take (cut c rest).2))
          (ofText (rest.drop (cut c rest).2)) := by
  rw [ofText_cons, lexemesFrom_cons, given]
  rfl

theorem exists_cut_of_split {source : Text} {before after : List Piece} {piece : Piece}
    (split : ofText source = before ++ piece :: after) :
    ∃ first rest,
      piece = { kind := (cut first rest).1, text := first :: rest.take (cut first rest).2 } ∧
        after = ofText (rest.drop (cut first rest).2) := by
  induction source using cut_induction generalizing before with
  | nil => simp [ofText] at split
  | cons first rest ih =>
    rw [ofText_cons] at split
    cases before with
    | cons head earlier => exact ih (List.cons.inj split).2
    | nil =>
      obtain ⟨rfl, rfl⟩ := List.cons.inj split
      exact ⟨first, rest, rfl, rfl⟩

theorem start_lt_of_dropped {start : Nat} {c : Char} {rest : Text} {lexeme : Lexeme}
    (dropped : (cut c rest).1 = none)
    (member : lexeme ∈ lexemesFrom start (ofText (c :: rest))) : start < lexeme.start := by
  have wide := Text.byteLength_pos_of_ne_nil (List.cons_ne_nil c (rest.take (cut c rest).2))
  rw [ofText_cons, lexemesFrom_cons, dropped] at member
  have later := Lexeme.start_le_of_mem_lexemesFrom member
  simp only at later
  omega

theorem exists_cut_of_start {start : Nat} {text : Text} {lexeme : Lexeme}
    (member : lexeme ∈ lexemesFrom start (ofText text)) (first : lexeme.start = start) :
    ∃ c rest, text = c :: rest ∧ (cut c rest).1 = some lexeme.kind ∧
      lexeme.text = c :: rest.take (cut c rest).2 := by
  cases text with
  | nil => simp [ofText, lexemesFrom] at member
  | cons c rest =>
    cases kind : (cut c rest).1 with
    | none => exact absurd first (Nat.ne_of_gt (start_lt_of_dropped kind member))
    | some given =>
      have wide := Text.byteLength_pos_of_ne_nil (List.cons_ne_nil c (rest.take (cut c rest).2))
      rw [lexemesFrom_of_kind kind] at member
      rcases List.mem_cons.mp member with rfl | later
      · exact ⟨c, rest, rfl, kind, rfl⟩
      · have behind := Lexeme.start_le_of_mem_lexemesFrom later
        omega

end Piece

namespace Lexeme

-- What comes behind a token is cut as if the source began there.
theorem exists_behind_of_lexemesFrom {start : Nat} {text : Text} {before after : List Lexeme}
    {lexeme : Lexeme}
    (split : Piece.lexemesFrom start (Piece.ofText text) = before ++ lexeme :: after) :
    ∃ front back, text = front ++ back ∧ start + front.byteLength = lexeme.stop ∧
      after = Piece.lexemesFrom lexeme.stop (Piece.ofText back) := by
  obtain ⟨front, back, pieces, begins, rfl⟩ := Piece.exists_piece_of_lexemesFrom split
  obtain ⟨first, rest, _, behind⟩ := Piece.exists_cut_of_split pieces
  have whole := Piece.flatMap_text_ofText text
  rw [pieces, behind, List.flatMap_append, List.flatMap_cons, Piece.flatMap_text_ofText,
    ← List.append_assoc] at whole
  refine ⟨front.flatMap (·.text) ++ lexeme.text, _, whole.symm, ?_, by rw [behind]⟩
  rw [Text.byteLength_append, ← Nat.add_assoc, ← begins, stop]

theorem exists_behind {source : Text} {before after : List Lexeme} {lexeme : Lexeme}
    (split : ofText source = before ++ lexeme :: after) :
    ∃ front back, source = front ++ back ∧ front.byteLength = lexeme.stop ∧
      after = Piece.lexemesFrom lexeme.stop (Piece.ofText back) := by
  obtain ⟨front, back, whole, stop, behind⟩ := exists_behind_of_lexemesFrom split
  exact ⟨front, back, whole, by rw [← stop, Nat.zero_add], behind⟩

theorem mem_behind {source : Text} {before after : List Lexeme} {lexeme other : Lexeme}
    (split : ofText source = before ++ lexeme :: after) (member : other ∈ ofText source)
    (later : lexeme.stop < other.stop) : other ∈ after := by
  have ordered := pairwise_stop_lt source
  rw [split, List.pairwise_append] at ordered
  obtain ⟨_, _, across⟩ := ordered
  rw [split] at member
  rcases List.mem_append.mp member with early | rest
  · exact absurd later (Nat.lt_asymm (across other early lexeme (by simp)))
  · rcases List.mem_cons.mp rest with rfl | behind
    · exact absurd later (Nat.lt_irrefl _)
    · exact behind

end Lexeme

end Terminator
