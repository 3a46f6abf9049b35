import Terminator.Proofs.LexemeSuccession

set_option autoImplicit false

namespace Terminator

namespace Piece

variable {first : Char} {rest more : Text}

theorem run_append {holds : Char → Bool} (within : run holds (rest ++ more) ≤ rest.length) :
    run holds (rest ++ more) = run holds rest := by
  simp only [run, List.takeWhile_append] at within ⊢
  by_cases all : (rest.takeWhile holds).length = rest.length
  · rw [if_pos all, List.length_append] at within ⊢
    omega
  · rw [if_neg all]

theorem commentClose?_cons (c : Char) (tail : Text) :
    commentClose? (c :: tail) =
      if c = '*' ∧ tail.head? = some '/' then some 2 else (commentClose? tail).map (· + 1) := by
  by_cases closes : c = '*' ∧ tail.head? = some '/'
  · obtain ⟨rfl, slash⟩ := closes
    obtain ⟨rest, rfl⟩ := List.head?_eq_some_iff.mp slash
    rfl
  · rw [if_neg closes, commentClose?]
    rintro rest rfl rfl
    exact closes ⟨rfl, rfl⟩

theorem commentClose?_append {count : Nat} (closed : commentClose? (rest ++ more) = some count)
    (within : count ≤ rest.length) : commentClose? rest = some count := by
  induction rest generalizing count with
  | nil =>
    obtain rfl : count = 0 := Nat.le_zero.mp within
    cases more with
    | nil => cases closed
    | cons c tail => simp [commentClose?_cons, ite_eq_iff] at closed
  | cons c tail ih =>
    rw [List.cons_append, commentClose?_cons] at closed
    rw [commentClose?_cons]
    have before : (tail ++ more).head? = tail.head? ∨ tail = [] := by cases tail <;> simp
    by_cases closes : c = '*' ∧ (tail ++ more).head? = some '/'
    · obtain rfl : 2 = count := by simpa [closes] using closed
      have wide : tail ≠ [] := by
        rintro rfl
        simp at within
      rw [← before.resolve_right wide, if_pos closes]
    · rw [if_neg closes, Option.map_eq_some_iff] at closed
      obtain ⟨inner, closed, rfl⟩ := closed
      have found := ih closed (Nat.le_of_succ_le_succ within)
      have wide : tail ≠ [] := by
        rintro rfl
        cases found
      rw [before.resolve_right wide] at closes
      rw [if_neg closes, found, Option.map_some]

theorem quotedItems_escaped (quote : Char) (spansLines : Bool) (c : Char) (tail : Text) :
    quotedItems quote spansLines ('\\' :: c :: tail) =
      if c = '\n' then (0, false)
      else ((quotedItems quote spansLines tail).1 + 2, (quotedItems quote spansLines tail).2) := by
  rw [quotedItems]

theorem quotedItems_escape_alone {quote : Char} (spansLines : Bool) (mark : quote ≠ '\\') :
    quotedItems quote spansLines ['\\'] = (0, false) := by
  rw [quotedItems]
  · simp [mark.symm]
  · rintro _ _ _ ⟨⟩

theorem quotedItems_plain (quote : Char) (spansLines : Bool) {c : Char} (plain : c ≠ '\\')
    (tail : Text) :
    quotedItems quote spansLines (c :: tail) =
      if c = quote then (0, true)
      else if c = '\n' && !spansLines then (0, false)
      else ((quotedItems quote spansLines tail).1 + 1, (quotedItems quote spansLines tail).2) := by
  rw [quotedItems]
  · simp [plain]
  · rintro _ _ rfl
    exact absurd rfl plain

theorem quotedItems_append {quote : Char} {spansLines : Bool} (mark : quote ≠ '\\')
    (within : (quotedItems quote spansLines (rest ++ more)).1 +
      (quotedItems quote spansLines (rest ++ more)).2.toNat ≤ rest.length) :
    quotedItems quote spansLines (rest ++ more) = quotedItems quote spansLines rest := by
  fun_induction quotedItems quote spansLines rest with
  | case1 tail => exact quotedItems_escaped quote spansLines '\n' (tail ++ more)
  | case2 c tail other count closed items ih =>
    rw [List.cons_append, List.cons_append, quotedItems_escaped, if_neg other] at within ⊢
    rw [ih (by simp only [List.length_cons] at within; omega), items]
  | case3 tail =>
    rw [List.cons_append, quotedItems_plain quote spansLines mark, if_pos rfl]
  | case4 c tail alone other ends =>
    by_cases escape : c = '\\'
    · cases tail with
      | cons d tail => exact (alone d tail escape rfl).elim
      | nil =>
        subst escape
        cases more with
        | nil => exact quotedItems_escape_alone spansLines mark
        | cons d more =>
          have stops : d = '\n' := by
            by_contra wrong
            simp only [List.cons_append, List.nil_append, quotedItems_escaped, wrong, if_false,
              List.length_singleton] at within
            omega
          simp [quotedItems_escaped, stops]
    · rw [List.cons_append, quotedItems_plain quote spansLines escape, if_neg other,
        if_pos (by simpa [escape] using ends)]
  | case5 c tail _ other goesOn count closed items ih =>
    have escape : c ≠ '\\' := fun same => goesOn (by simp [same])
    rw [List.cons_append, quotedItems_plain quote spansLines escape, if_neg other,
      if_neg (by simpa [escape] using goesOn)] at within ⊢
    rw [ih (by simp only [List.length_cons] at within; omega), items]
  | case6 =>
    obtain ⟨none, open'⟩ : _ ∧ _ := Nat.add_eq_zero_iff.mp (Nat.le_zero.mp within)
    exact Prod.ext none (Bool.toNat_eq_zero.mp open')

theorem cutQuote_append {kind : LexemeKind} {quote : Char} {spansLines : Bool} (mark : quote ≠ '\\')
    (within : (cutQuote kind quote spansLines (rest ++ more)).2 ≤ rest.length) :
    cutQuote kind quote spansLines (rest ++ more) = cutQuote kind quote spansLines rest := by
  have inner : (quotedItems quote spansLines (rest ++ more)).1 +
      (quotedItems quote spansLines (rest ++ more)).2.toNat ≤ rest.length := by
    unfold cutQuote at within
    split at within
    next items => simpa [items] using within
    next items => simp [items]
    next items => simpa [items] using within
  rw [cutQuote, quotedItems_append mark inner, ← cutQuote]

theorem cutSlash_of_other {c : Char} (line : c ≠ '/') (block : c ≠ '*') (tail : Text) :
    cutSlash (c :: tail) = (some .punctuation, 0) := by
  rw [cutSlash]
  · rintro _ ⟨⟩
    exact line rfl
  · rintro _ ⟨⟩
    exact block rfl

theorem cutSlash_append (within : (cutSlash (rest ++ more)).2 ≤ rest.length) :
    cutSlash (rest ++ more) = cutSlash rest := by
  cases rest with
  | nil =>
    cases more with
    | nil => rfl
    | cons c tail =>
      by_cases line : c = '/'
      · simp [line, cutSlash] at within
      · by_cases block : c = '*'
        · simp only [block, List.nil_append, cutSlash] at within
          split at within <;> simp at within
        · exact cutSlash_of_other line block tail
  | cons c tail =>
    by_cases line : c = '/'
    · subst line
      simp only [List.cons_append, cutSlash, List.length_cons, Nat.add_le_add_iff_right] at within ⊢
      rw [run_append within]
    · by_cases block : c = '*'
      · subst block
        simp only [List.cons_append, cutSlash] at within ⊢
        cases closed : commentClose? (tail ++ more) with
        | some count =>
          simp only [closed, List.length_cons, Nat.add_le_add_iff_right] at within
          rw [commentClose?_append closed within]
        | none =>
          simp only [closed, List.length_append, List.length_cons,
            Nat.add_le_add_iff_right] at within
          obtain rfl : more = [] := List.eq_nil_of_length_eq_zero (by omega)
          rw [List.append_nil] at closed ⊢
          rw [closed]
      · rw [List.cons_append, cutSlash_of_other line block, cutSlash_of_other line block]

theorem ite_append {long short : Prop} [Decidable long] [Decidable short] {bound : Nat}
    {first first' second second' : Option LexemeKind × Nat}
    (inward : long → first.2 ≤ bound → short) (outward : short → long)
    (holds : long → first.2 ≤ bound → first = first')
    (fails : ¬ long → second.2 ≤ bound → second = second')
    (within : (if long then first else second).2 ≤ bound) :
    (if long then first else second) = if short then first' else second' := by
  by_cases here : long
  · rw [if_pos here] at within ⊢
    rw [if_pos (inward here within), holds here within]
  · rw [if_neg here] at within ⊢
    rw [if_neg fun there => here (outward there), fails here within]

/-- A piece that ends within a text is cut the same when more text follows. -/
theorem cut_append (within : (cut first (rest ++ more)).2 ≤ rest.length) :
    cut first (rest ++ more) = cut first rest := by
  have run {kind : LexemeKind} {holds : Char → Bool}
      (inside : run holds (rest ++ more) ≤ rest.length) :
      (some kind, run holds (rest ++ more)) = (some kind, Piece.run holds rest) := by
    rw [run_append inside]
  have sameHead (some : rest ≠ []) : (rest ++ more).head? = rest.head? :=
    List.head?_append_of_ne_nil _ some
  have ne_nil (head : (rest.head?).isSome = true) : rest ≠ [] := by simpa using head
  have inward {d : Char} (twice : (first = d && (rest ++ more).head? = some d) = true)
      (inside : 1 ≤ rest.length) : (first = d && rest.head? = some d) = true := by
    rwa [← sameHead (List.ne_nil_of_length_pos inside)]
  have outward {d : Char} (twice : (first = d && rest.head? = some d) = true) :
      (first = d && (rest ++ more).head? = some d) = true := by
    have head : rest.head? = some d := by simpa using (Bool.and_eq_true_iff.mp twice).2
    rwa [sameHead (ne_nil (by rw [head]; rfl))]
  unfold cut at within ⊢
  refine ite_append (fun here _ => here) id (fun _ inside => run inside) (fun _ => ?_) within
  refine ite_append (fun here _ => here) id (fun _ _ => rfl) (fun _ => ?_)
  refine ite_append (fun here _ => here) id (fun _ inside => run inside) (fun _ => ?_)
  refine ite_append (fun here _ => here) id (fun _ inside => run inside) (fun _ => ?_)
  refine ite_append (fun here _ => here) id (fun _ _ => rfl) (fun _ => ?_)
  refine ite_append (fun here _ => here) id (fun _ => cutSlash_append) (fun _ => ?_)
  refine ite_append (fun here _ => here) id (fun _ => cutQuote_append (by decide)) (fun _ => ?_)
  refine ite_append (fun here _ => here) id (fun _ => cutQuote_append (by decide)) (fun _ => ?_)
  refine ite_append (fun here _ => here) id (fun _ => cutQuote_append (by decide)) (fun _ => ?_)
  refine ite_append ?_ ?_ (fun _ inside => run inside) (fun _ => ?_)
  · intro point inside
    have wide : rest ≠ [] := by
      rintro rfl
      cases more with
      | nil => simp at point
      | cons d more =>
        have digit : Text.isAsciiDigit d = true := (Bool.and_eq_true_iff.mp point).2
        have goesOn : continuesFraction d = true := by simp [continuesFraction, digit]
        simp [Piece.run, goesOn] at inside
    rwa [← sameHead wide]
  · intro point
    have wide : rest ≠ [] := by
      rintro rfl
      simp at point
    rwa [sameHead wide]
  refine ite_append inward outward (fun _ _ => rfl) (fun _ => ?_)
  exact ite_append inward outward (fun _ _ => rfl) (fun _ _ => rfl)

theorem ofText_append {source front back : Text} {count : Nat} (whole : source = front ++ back)
    (cut : ((ofText source).take count).flatMap (·.text) = front) :
    ofText source = ofText front ++ ofText back := by
  -- The first piece ends within the front, so it is cut from the front alone as from the source.
  induction source using cut_induction generalizing front count with
  | nil =>
    obtain ⟨rfl, rfl⟩ := List.append_eq_nil_iff.mp whole.symm
    simp [ofText]
  | cons first rest ih =>
    by_cases nothing : back = []
    · simp [whole, nothing, ofText]
    · cases front with
      | nil => simp [whole, ofText]
      | cons c inner =>
        rw [List.cons_append, List.cons.injEq] at whole
        obtain ⟨rfl, rfl⟩ := whole
        cases count with
        | zero => cases cut
        | succ count =>
          rw [ofText_cons, List.take_succ_cons, List.flatMap_cons, List.cons_append] at cut
          replace cut := (List.cons.inj cut).2
          have shorter := congrArg List.length cut
          have wide := List.length_pos_iff.mpr nothing
          rw [List.length_append, List.length_take, List.length_append] at shorter
          have within : (Piece.cut first (inner ++ back)).2 ≤ inner.length := by omega
          have same := cut_append within
          rw [List.take_append_of_le_length within] at cut
          have later := ih (List.drop_append_of_le_length within)
            (List.append_cancel_left (cut.trans (List.take_append_drop _ inner).symm))
          rw [ofText_cons, later, ofText_cons, ← same, List.take_append_of_le_length within,
            List.cons_append]

theorem ofText_text {source : Text} {piece : Piece} (member : piece ∈ ofText source) :
    ofText piece.text = [piece] := by
  obtain ⟨before, after, split⟩ := List.append_of_mem member
  obtain ⟨first, rest, rfl, rfl⟩ := exists_cut_of_split split
  have whole : first :: rest =
      first :: rest.take (cut first rest).2 ++ rest.drop (cut first rest).2 := by simp
  have apart := @ofText_append _ _ _ 1 whole (by simp [ofText_cons])
  rw [ofText_cons, ← List.singleton_append] at apart
  exact (List.append_cancel_right apart).symm

/-- Whether a piece ends at an offset, so that no token and no dropped text goes across it. -/
def CutAt (source : Text) (offset : Nat) : Prop :=
  ∃ count ≤ (ofText source).length,
    Text.byteLength (((ofText source).take count).flatMap (·.text)) = offset

instance (source : Text) : DecidablePred (CutAt source) :=
  fun offset => inferInstanceAs (Decidable (∃ count ≤ (ofText source).length,
    Text.byteLength (((ofText source).take count).flatMap (·.text)) = offset))

theorem ofText_of_cutAt {front back : Text} (cut : CutAt (front ++ back) front.byteLength) :
    ofText (front ++ back) = ofText front ++ ofText back := by
  obtain ⟨count, _, length⟩ := cut
  have pieces := flatMap_text_ofText (front ++ back)
  rw [← List.take_append_drop count (ofText (front ++ back)), List.flatMap_append] at pieces
  apply @ofText_append _ _ _ count rfl
  have taken := Text.takeBytes_byteLength
    (((ofText (front ++ back)).take count).flatMap (·.text))
    (((ofText (front ++ back)).drop count).flatMap (·.text))
  rw [pieces, length, Text.takeBytes_byteLength] at taken
  exact taken.symm

theorem cutAt_behind {front back : Text} {offset : Nat}
    (split : ofText (front ++ back) = ofText front ++ ofText back)
    (cut : CutAt (front ++ back) (front.byteLength + offset)) : CutAt back offset := by
  obtain ⟨count, inside, length⟩ := cut
  rw [split, List.length_append] at inside
  rw [split, List.take_append, List.flatMap_append, Text.byteLength_append] at length
  by_cases inFront : count ≤ (ofText front).length
  · rw [Nat.sub_eq_zero_of_le inFront, List.take_zero, List.flatMap_nil,
      Text.byteLength_nil] at length
    have before := congrArg Text.byteLength (flatMap_text_ofText front)
    rw [← List.take_append_drop count (ofText front), List.flatMap_append,
      Text.byteLength_append] at before
    refine ⟨0, Nat.zero_le _, ?_⟩
    rw [List.take_zero, List.flatMap_nil, Text.byteLength_nil]
    omega
  · rw [List.take_of_length_le (Nat.le_of_not_le inFront), flatMap_text_ofText] at length
    exact ⟨count - (ofText front).length, by omega, Nat.add_left_cancel length⟩

end Piece

namespace Lexeme

theorem ofText_text {source : Text} {lexeme : Lexeme} (member : lexeme ∈ ofText source) :
    ofText lexeme.text = [{ kind := lexeme.kind, start := 0, text := lexeme.text }] := by
  obtain ⟨front, back, pieces, _⟩ := Piece.exists_piece_of_mem member
  have inside : { kind := some lexeme.kind, text := lexeme.text } ∈ Piece.ofText source := by
    simp [pieces]
  rw [ofText, Piece.ofText_text inside]
  rfl

theorem stop_le_of_mem_lexemesFrom {start : Nat} {pieces : List Piece} {lexeme : Lexeme}
    (member : lexeme ∈ Piece.lexemesFrom start pieces) :
    lexeme.stop ≤ start + Text.byteLength (pieces.flatMap (·.text)) := by
  obtain ⟨front, back, rfl, begins⟩ := Piece.exists_piece_of_mem member
  simp only [stop, begins, List.flatMap_append, List.flatMap_cons, Text.byteLength_append]
  omega

theorem lexemesFrom_append (start : Nat) (first second : List Piece) :
    Piece.lexemesFrom start (first ++ second) =
      Piece.lexemesFrom start first ++
        Piece.lexemesFrom (start + Text.byteLength (first.flatMap (·.text))) second := by
  induction first generalizing start with
  | nil => simp [Piece.lexemesFrom, Text.byteLength_nil]
  | cons piece rest ih =>
    rw [List.cons_append, Piece.lexemesFrom_cons, Piece.lexemesFrom_cons, ih, List.flatMap_cons,
      Text.byteLength_append, List.append_assoc, Nat.add_assoc]

theorem ofText_of_cutAt {front back : Text} (cut : Piece.CutAt (front ++ back) front.byteLength) :
    ofText (front ++ back) =
      ofText front ++ Piece.lexemesFrom front.byteLength (Piece.ofText back) := by
  rw [ofText, Piece.ofText_of_cutAt cut, lexemesFrom_append, Piece.flatMap_text_ofText,
    Nat.zero_add, ofText]

theorem mem_behind_cut {front back : Text} {lexeme : Lexeme}
    (cut : Piece.CutAt (front ++ back) front.byteLength)
    (member : lexeme ∈ ofText (front ++ back)) (behind : front.byteLength < lexeme.stop) :
    lexeme ∈ Piece.lexemesFrom front.byteLength (Piece.ofText back) := by
  rw [ofText_of_cutAt cut] at member
  rcases List.mem_append.mp member with early | later
  · have stop := stop_le_of_mem_lexemesFrom early
    rw [Piece.flatMap_text_ofText] at stop
    omega
  · exact later

theorem mem_ofText_between {front middle back : Text} {lexeme : Lexeme}
    (cut : Piece.CutAt (front ++ (middle ++ back)) front.byteLength)
    (cut' : Piece.CutAt (front ++ (middle ++ back)) (front.byteLength + middle.byteLength)) :
    (lexeme ∈ ofText (front ++ (middle ++ back)) ∧ front.byteLength < lexeme.stop ∧
        lexeme.stop ≤ front.byteLength + middle.byteLength) ↔
      lexeme ∈ Piece.lexemesFrom front.byteLength (Piece.ofText middle) := by
  have split := Piece.ofText_of_cutAt cut
  have split' := Piece.ofText_of_cutAt (Piece.cutAt_behind split cut')
  have parts : ofText (front ++ (middle ++ back)) =
      Piece.lexemesFrom 0 (Piece.ofText front) ++
        (Piece.lexemesFrom front.byteLength (Piece.ofText middle) ++
          Piece.lexemesFrom (front.byteLength + middle.byteLength) (Piece.ofText back)) := by
    simp only [ofText, split, split', lexemesFrom_append, Piece.flatMap_text_ofText, Nat.zero_add]
  constructor
  · rintro ⟨member, after, before⟩
    have less := start_lt_stop member
    rw [parts] at member
    rcases List.mem_append.mp member with early | rest
    · have stop := stop_le_of_mem_lexemesFrom early
      rw [Piece.flatMap_text_ofText] at stop
      omega
    · rcases List.mem_append.mp rest with here | late
      · exact here
      · have start := start_le_of_mem_lexemesFrom late
        omega
  · intro here
    have member : lexeme ∈ ofText (front ++ (middle ++ back)) := by simp [parts, here]
    have start := start_le_of_mem_lexemesFrom here
    have less := start_lt_stop member
    have stop := stop_le_of_mem_lexemesFrom here
    rw [Piece.flatMap_text_ofText] at stop
    exact ⟨member, by omega, stop⟩

/-- A token that stands alone is cut as it was in its source. So its kind is told by its text, and
not by what stands around it. -/
theorem ofText_gives_back_lexeme (source : Text) :
    (∀ lexeme ∈ ofText source, ∃ text, source.slice? lexeme.start lexeme.stop = some text ∧
      ofText text = [{ kind := lexeme.kind, start := 0, text }]) ∧
    ∀ other : Text, ∀ lexeme ∈ ofText source, ∀ alike ∈ ofText other,
      alike.text = lexeme.text → alike.kind = lexeme.kind := by
  constructor
  · intro lexeme member
    exact ⟨lexeme.text, slice?_span member, ofText_text member⟩
  · intro other lexeme member alike member' same
    have alone := ofText_text member'
    rw [same, ofText_text member] at alone
    exact (congrArg kind (List.singleton_inj.mp alone)).symm

theorem ofText_gives_back_quote_and_slash :
    let source : Text := ['"', '\n', 'é', '/', ' ', '/']
    let other : Text := ['/', '"']
    let quote : Lexeme := { kind := .punctuation, start := 0, text := ['"'] }
    let slash : Lexeme := { kind := .punctuation, start := 4, text := ['/'] }
    quote ∈ ofText source ∧ slash ∈ ofText source ∧
      source.slice? slash.start slash.stop = some ['/'] ∧
      ofText ['/'] = [{ kind := .punctuation, start := 0, text := ['/'] }] ∧
      ∀ alike ∈ ofText other, alike.text = quote.text → alike.kind = .punctuation := by
  intro source other quote slash
  have member : quote ∈ ofText source := by decide +kernel
  have member' : slash ∈ ofText source := by decide +kernel
  obtain ⟨alone, alike⟩ := ofText_gives_back_lexeme source
  obtain ⟨text, sliced, same⟩ := alone slash member'
  have cut : source.slice? slash.start slash.stop = some ['/'] := by decide +kernel
  obtain rfl := Option.some.inj (sliced.symm.trans cut)
  exact ⟨member, member', sliced, same, alike other quote member⟩

end Lexeme

end Terminator
