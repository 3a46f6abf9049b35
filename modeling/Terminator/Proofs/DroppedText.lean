import Terminator.Proofs.PieceBoundaries

set_option autoImplicit false

namespace Terminator

namespace Piece

inductive Items (quote : Char) (spansLines : Bool) : Text → Prop
  | nil : Items quote spansLines []
  | plain {c : Char} {rest : Text} : c ≠ quote → c ≠ '\\' → (c = '\n' → spansLines = true) →
      Items quote spansLines rest → Items quote spansLines (c :: rest)
  | escaped {c : Char} {rest : Text} : c ≠ '\n' → Items quote spansLines rest →
      Items quote spansLines ('\\' :: c :: rest)

inductive Blocked (spansLines : Bool) : Text → Prop
  | ended : Blocked spansLines []
  | lineFeed {rest : Text} : spansLines = false → Blocked spansLines ('\n' :: rest)
  | backslash : Blocked spansLines ['\\']
  | escapedLineFeed {rest : Text} : Blocked spansLines ('\\' :: '\n' :: rest)

/-- The text that makes no token, with the text behind it. -/
inductive Dropped : Text → Text → Prop
  | numeral {c : Char} {behind : Text} : Text.isNumeral c = true → Text.isAsciiDigit c = false →
      Dropped [c] behind
  | literal {quote : Char} {spansLines : Bool} {items behind : Text} :
      (quote, spansLines) ∈ [('"', false), ('\'', false), ('\x60', true)] → items ≠ [] →
      Items quote spansLines items → Blocked spansLines behind → Dropped (quote :: items) behind
  | comment {body : Text} : ¬ ['*', '/'] <:+: body → Dropped ('/' :: '*' :: body) []

/-- What is sure where a piece is cut off: a run does not go on behind itself, and text is dropped
for one of the reasons there are. -/
def CutOff (first : Char) (rest : Text) (piece : Option LexemeKind × Nat) : Prop :=
  match piece.1 with
  | some .whitespace => ((rest.drop piece.2).head?).all (!isSpace ·) = true
  | some .word => ((rest.drop piece.2).head?).all (!continuesWord ·) = true
  | some _ => True
  | none => Dropped (first :: rest.take piece.2) (rest.drop piece.2)

theorem items_of_unclosed {quote : Char} {spansLines : Bool} {text : Text} {count : Nat}
    (unclosed : quotedItems quote spansLines text = (count, false)) :
    Items quote spansLines (text.take count) ∧ Blocked spansLines (text.drop count) := by
  fun_induction quotedItems quote spansLines text generalizing count with
  | case1 tail =>
    obtain ⟨rfl, _⟩ := Prod.mk.inj unclosed
    exact ⟨.nil, .escapedLineFeed⟩
  | case2 c tail other inner closed items ih =>
    obtain ⟨rfl, rfl⟩ := Prod.mk.inj unclosed
    obtain ⟨within, behind⟩ := ih items
    exact ⟨.escaped other within, behind⟩
  | case3 tail => cases unclosed
  | case4 c tail alone other stops =>
    obtain ⟨rfl, _⟩ := Prod.mk.inj unclosed
    refine ⟨.nil, ?_⟩
    by_cases escape : c = '\\'
    · subst escape
      cases tail with
      | nil => exact .backslash
      | cons d tail => exact (alone d tail rfl rfl).elim
    · obtain ⟨rfl, oneLine⟩ : c = '\n' ∧ spansLines = false := by simpa [escape] using stops
      exact .lineFeed oneLine
  | case5 c tail alone other goesOn inner closed items ih =>
    obtain ⟨rfl, rfl⟩ := Prod.mk.inj unclosed
    obtain ⟨within, behind⟩ := ih items
    obtain ⟨escape, inLine⟩ : c ≠ '\\' ∧ (c = '\n' → spansLines = true) := by
      simpa using goesOn
    exact ⟨.plain other escape inLine within, behind⟩
  | case6 =>
    obtain ⟨rfl, _⟩ := Prod.mk.inj unclosed
    exact ⟨.nil, .ended⟩

theorem not_closed_of_commentClose? {text : Text} (unclosed : commentClose? text = none) :
    ¬ ['*', '/'] <:+: text := by
  induction text with
  | nil => simp
  | cons c tail ih =>
    rw [commentClose?_cons] at unclosed
    split at unclosed
    next => cases unclosed
    next apart =>
      rw [List.infix_cons_iff, not_or]
      refine ⟨?_, ih (Option.map_eq_none_iff.mp unclosed)⟩
      rintro ⟨behind, same⟩
      obtain ⟨rfl, rfl⟩ := List.cons.inj same
      exact apart ⟨rfl, rfl⟩

theorem not_holds_behind_run (holds : Char → Bool) (text : Text) :
    ((text.drop (run holds text)).head?).all (!holds ·) = true := by
  have stops := List.head?_dropWhile_not holds text
  rw [drop_run]
  cases ahead : (text.dropWhile holds).head? with
  | none => rfl
  | some c =>
    rw [ahead] at stops
    simp [stops]

theorem cutOff_cutSlash (rest : Text) : CutOff '/' rest (cutSlash rest) := by
  unfold cutSlash
  split
  next => trivial
  next body =>
    split
    next => trivial
    next unclosed => simpa [CutOff] using Dropped.comment (not_closed_of_commentClose? unclosed)
  next => trivial

theorem cutOff_cutQuote {kind : LexemeKind} {quote : Char} {spansLines : Bool} (rest : Text)
    (literal : ∀ count, CutOff quote rest (some kind, count))
    (marks : (quote, spansLines) ∈ [('"', false), ('\'', false), ('\x60', true)]) :
    CutOff quote rest (cutQuote kind quote spansLines rest) := by
  unfold cutQuote
  split
  next => exact literal _
  next => trivial
  next count some unclosed =>
    have within := items_of_unclosed unclosed
    refine Dropped.literal marks ?_ within.1 within.2
    intro nothing
    rcases List.take_eq_nil_iff.mp nothing with rfl | rfl
    · exact some rfl
    · cases unclosed
      exact some rfl

theorem cutOff_cut (first : Char) (rest : Text) : CutOff first rest (cut first rest) := by
  have quote (kind : LexemeKind) (mark : Char) (spansLines : Bool)
      (literal : ∀ count, CutOff mark rest (some kind, count))
      (marks : (mark, spansLines) ∈ [('"', false), ('\'', false), ('\x60', true)])
      (here : first = mark) : CutOff first rest (cutQuote kind mark spansLines rest) := by
    rw [here]
    exact cutOff_cutQuote rest literal marks
  -- One step for each branch of the cut, in its order.
  unfold cut
  refine iteInduction (fun _ => not_holds_behind_run isSpace rest) fun _ => ?_
  refine iteInduction (fun _ => trivial) fun _ => ?_
  refine iteInduction (fun _ => trivial) fun digit => ?_
  refine iteInduction (fun _ => not_holds_behind_run continuesWord rest) fun _ => ?_
  refine iteInduction (fun numeral => .numeral numeral (by simpa using digit)) fun _ => ?_
  refine iteInduction (fun slash => slash ▸ cutOff_cutSlash rest) fun _ => ?_
  refine iteInduction (quote .stringLiteral _ _ (fun _ => trivial) (by simp)) fun _ => ?_
  refine iteInduction (quote .charLiteral _ _ (fun _ => trivial) (by simp)) fun _ => ?_
  refine iteInduction (quote .templateLiteral _ _ (fun _ => trivial) (by simp)) fun _ => ?_
  refine iteInduction (fun _ => trivial) fun _ => ?_
  refine iteInduction (fun _ => trivial) fun _ => ?_
  refine iteInduction (fun _ => trivial) fun _ => ?_
  refine iteInduction (fun _ => trivial) fun _ => ?_
  refine iteInduction (fun _ => trivial) fun _ => ?_
  exact iteInduction (fun _ => trivial) fun _ => trivial

theorem dropped_of_split {source : Text} {before after : List Piece} {piece : Piece}
    (split : ofText source = before ++ piece :: after) (noToken : piece.kind = none) :
    Dropped piece.text (after.flatMap (·.text)) := by
  obtain ⟨first, rest, rfl, rfl⟩ := exists_cut_of_split split
  have cutOff := cutOff_cut first rest
  rw [CutOff, show (cut first rest).1 = none from noToken] at cutOff
  rwa [flatMap_text_ofText]

end Piece

namespace Lexeme

variable {source : Text} {lexeme : Lexeme}

theorem mem_ofText_iff : lexeme ∈ ofText source ↔
    ∃ before after,
      Piece.ofText source =
          before ++ { kind := some lexeme.kind, text := lexeme.text } :: after ∧
        lexeme.start = Text.byteLength (before.flatMap (·.text)) := by
  constructor
  · intro member
    obtain ⟨before, after, pieces, begins⟩ := Piece.exists_piece_of_mem member
    exact ⟨before, after, pieces, by rw [begins, Nat.zero_add]⟩
  · rintro ⟨before, after, pieces, start⟩
    rw [ofText, pieces, lexemesFrom_append, Piece.lexemesFrom_cons, Nat.zero_add, ← start]
    simp

-- The second token begins with the character that the first one stopped at.
theorem not_run_of_touching {later : Lexeme} (member : lexeme ∈ ofText source)
    (member' : later ∈ ofText source) (touching : lexeme.stop = later.start)
    (same : lexeme.kind = later.kind) : lexeme.kind ≠ .whitespace ∧ lexeme.kind ≠ .word := by
  obtain ⟨before, after, split⟩ := List.append_of_mem member
  obtain ⟨_, back, pieces, _, rfl⟩ := Piece.exists_piece_of_lexemesFrom split
  obtain ⟨first, rest, cut, rfl⟩ := Piece.exists_cut_of_split pieces
  have behind := mem_behind split member' (by rw [touching]; exact start_lt_stop member')
  obtain ⟨c, rest', next, kind, _⟩ := Piece.exists_cut_of_start behind touching.symm
  have begins := Piece.begins_cut c rest'
  have cutOff := Piece.cutOff_cut first rest
  have kind' := congrArg Piece.kind cut
  simp only at kind'
  rw [kind, ← same] at begins
  simp only [Piece.CutOff, ← kind', next] at cutOff
  constructor
  · intro whitespace
    rw [whitespace] at begins cutOff
    simp_all [Piece.Begins]
  · intro word
    rw [word] at begins cutOff
    simp_all [Piece.Begins, Piece.continuesWord]

/-- Every character of the source is part of a token, or of text that is dropped for one of three
reasons. -/
theorem ofText_accounts_for_source (source : Text) :
    (Piece.ofText source).flatMap (·.text) = source ∧
      (∀ before piece after, Piece.ofText source = before ++ piece :: after →
        piece.text ≠ [] ∧
          (piece.kind = none → Piece.Dropped piece.text (after.flatMap (·.text)))) ∧
      (∀ lexeme, lexeme ∈ ofText source ↔
        ∃ before after,
          Piece.ofText source =
              before ++ { kind := some lexeme.kind, text := lexeme.text } :: after ∧
            lexeme.start = Text.byteLength (before.flatMap (·.text))) ∧
      (∀ lexeme ∈ ofText source, lexeme.start < lexeme.stop ∧
        source.IsBoundary lexeme.start ∧ source.IsBoundary lexeme.stop) ∧
      (ofText source).Pairwise (fun first later => first.stop ≤ later.start) ∧
      ∀ first ∈ ofText source, ∀ later ∈ ofText source, first.stop = later.start →
        first.kind = later.kind → first.kind ≠ .whitespace ∧ first.kind ≠ .word := by
  refine ⟨Piece.flatMap_text_ofText source, ?_, fun lexeme => mem_ofText_iff, ?_,
    pairwise_lexemesFrom 0 _, ?_⟩
  · intro before piece after split
    have member : piece ∈ Piece.ofText source := by simp [split]
    exact ⟨Piece.text_ne_nil member, Piece.dropped_of_split split⟩
  · intro lexeme member
    exact ⟨start_lt_stop member, isBoundary_start member, isBoundary_stop member⟩
  · intro first member later member' touching same
    exact not_run_of_touching member member' touching same

theorem ofText_drops_three_ways :
    let source := ['½', '(', '(', '"', 'b', '\n', '/', '*']
    Piece.Dropped ['½'] ['(', '(', '"', 'b', '\n', '/', '*'] ∧
      Piece.Dropped ['"', 'b'] ['\n', '/', '*'] ∧ Piece.Dropped ['/', '*'] [] ∧
      ∃ first ∈ ofText source, ∃ later ∈ ofText source, first.stop = later.start ∧
        first.kind = later.kind ∧ first.start < first.stop ∧ first.kind ≠ .word := by
  intro source
  obtain ⟨_, split, _, inside, _, touching⟩ := ofText_accounts_for_source source
  have pieces : Piece.ofText source =
      [⟨none, ['½']⟩, ⟨some .punctuation, ['(']⟩, ⟨some .punctuation, ['(']⟩, ⟨none, ['"', 'b']⟩,
        ⟨some .lineBreak, ['\n']⟩, ⟨none, ['/', '*']⟩] := by
    decide +kernel
  have numeral := (split [] _ _ pieces).2 rfl
  have literal := (split (_ :: _ :: _ :: []) _ _ pieces).2 rfl
  have comment := (split (_ :: _ :: _ :: _ :: _ :: []) _ _ pieces).2 rfl
  have first : ⟨.punctuation, 2, ['(']⟩ ∈ ofText source := by decide +kernel
  have later : ⟨.punctuation, 3, ['(']⟩ ∈ ofText source := by decide +kernel
  have apart := touching _ first _ later rfl rfl
  exact ⟨numeral, literal, comment, _, first, _, later, rfl, rfl, (inside _ first).1, apart.2⟩

end Lexeme

end Terminator
