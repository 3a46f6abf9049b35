import Terminator.Proofs.SiteModes

set_option autoImplicit false

namespace Terminator

namespace Piece

variable {first : Char} {rest text : Text} {start : Nat}

theorem all_isBlank_of_trivia {lexeme : Lexeme} (kind : (cut first rest).1 = some lexeme.kind)
    (trivia : lexeme.isTrivia = true) :
    (first :: rest.take (cut first rest).2).all Text.isBlank = true := by
  cases given : lexeme.kind <;> simp only [Lexeme.isTrivia, given, Bool.false_eq_true] at trivia
  case whitespace =>
    have space := kind_eq_whitespace_iff.mp (given ▸ kind)
    have whitespace : cut first rest = (some .whitespace, run isSpace rest) := by simp [cut, space]
    rw [whitespace, take_run, List.all_cons, isBlank_of_isSpace space, Bool.true_and,
      List.all_eq_true]
    intro c member
    exact isBlank_of_isSpace (List.all_eq_true.mp List.all_takeWhile c member)
  case lineBreak =>
    have broken := kind_eq_lineBreak_iff.mp (given ▸ kind)
    simp [cut_lineBreak broken, Text.isBlank_of_isLineBreak broken]

theorem all_isBlank_of_covered
    (trivia : ∀ lexeme ∈ lexemesFrom start (ofText text), lexeme.isTrivia = true)
    (covered : ∀ offset, start ≤ offset → offset < start + text.byteLength →
      ∃ lexeme ∈ lexemesFrom start (ofText text), lexeme.start ≤ offset ∧ offset < lexeme.stop) :
    text.all Text.isBlank = true := by
  induction text using cut_induction generalizing start with
  | nil => rfl
  | cons first rest ih =>
    have wide := first.utf8Size_pos
    have parts : first :: rest =
        first :: rest.take (cut first rest).2 ++ rest.drop (cut first rest).2 := by simp
    have length := congrArg Text.byteLength parts
    rw [Text.byteLength_append] at length
    -- A token begins at the front, since the first offset is covered.
    obtain ⟨lexeme, member, begins, _⟩ := covered start (Nat.le_refl _)
      (by rw [Text.byteLength_cons]; omega)
    have here := Nat.le_antisymm begins (Lexeme.start_le_of_mem_lexemesFrom member)
    obtain ⟨c, tail, same, kind, _⟩ := exists_cut_of_start member here
    obtain ⟨rfl, rfl⟩ := List.cons.inj same
    have blank := all_isBlank_of_trivia kind (trivia lexeme member)
    rw [lexemesFrom_of_kind kind] at trivia covered
    rw [parts, List.all_append, blank, Bool.true_and]
    refine ih (fun other later => trivia other (List.mem_cons_of_mem _ later)) ?_
    intro offset after before
    obtain ⟨other, member, begins, inside⟩ := covered offset (by omega) (by omega)
    rcases List.mem_cons.mp member with rfl | later
    · simp only [Lexeme.stop] at inside
      omega
    · exact ⟨other, later, begins, inside⟩

end Piece

namespace Policy

theorem lineReason_of_blank {line : Text} (blank : line.all Text.isBlank = true) :
    lineReason line = .newStatement := by
  cases line with
  | nil => rfl
  | cons c rest => exact lineReason_of_isBlank (Bool.and_eq_true_iff.mp blank).1

theorem reason_of_blank {text : Text} (blank : text.all Text.isBlank = true) :
    reason (View.ofText text) =
      if text.any Text.isLineBreak then .newStatement else .endOfInput := by
  induction text with
  | nil => rfl
  | cons c rest ih =>
    obtain ⟨here, later⟩ := Bool.and_eq_true_iff.mp blank
    cases broken : Text.isLineBreak c with
    | true => simp [reason_of_lineBreak broken, lineReason_of_blank later, broken]
    | false =>
      have inline : Cursor.inlineBlank c = true := by simp [Cursor.inlineBlank, here, broken]
      rw [List.any_cons, broken, Bool.false_or, ← ih later]
      exact reason_cons_of_blank inline _

theorem inserts_of_blank {text : Text} (blank : text.all Text.isBlank = true) :
    (reason (View.ofText text)).decision = .insert := by
  rw [reason_of_blank blank]
  split <;> rfl

end Policy

-- What is last of a selection is last of any part of it that it belongs to.
theorem getLast?_filter_of_subset {α : Type} {list : List α} {last : α} {holds narrow : α → Bool}
    (final : (list.filter holds).getLast? = some last)
    (inside : ∀ item ∈ list, narrow item = true → holds item = true) (here : narrow last = true) :
    (list.filter narrow).getLast? = some last := by
  have twice : list.filter narrow = (list.filter holds).filter narrow := by
    rw [List.filter_filter]
    apply List.filter_congr
    intro item member
    cases selected : narrow item with
    | false => rfl
    | true => rw [inside item member selected]; rfl
  obtain ⟨earlier, parts⟩ := List.getLast?_eq_some_iff.mp final
  rw [twice, parts, List.filter_append]
  simp [here]

namespace Lexeme

variable {source : Text} {last other : Lexeme}

theorem stop_le_last (final : ((ofText source).filter (!·.isTrivia)).getLast? = some last)
    (member : other ∈ ofText source) (solid : other.isTrivia = false) : other.stop ≤ last.stop := by
  have ordered := (pairwise_stop_lt source).filter (!·.isTrivia)
  have inside : other ∈ (ofText source).filter (!·.isTrivia) := by simp [member, solid]
  obtain ⟨earlier, parts⟩ := List.getLast?_eq_some_iff.mp final
  rw [parts, List.pairwise_append] at ordered
  rw [parts] at inside
  rcases List.mem_append.mp inside with before | here
  · exact Nat.le_of_lt (ordered.2.2 other before last List.mem_cons_self)
  · rw [List.mem_singleton.mp here]

theorem all_isBlank_behind_last
    (final : ((ofText source).filter (!·.isTrivia)).getLast? = some last)
    (covered : Covered source last.stop source.byteLength) :
    ∃ front back, source = front ++ back ∧ front.byteLength = last.stop ∧
      back.all Text.isBlank = true := by
  have member : last ∈ ofText source := (List.mem_filter.mp (List.mem_of_getLast? final)).1
  obtain ⟨before, after, split⟩ := List.append_of_mem member
  obtain ⟨front, back, rfl, stop, rfl⟩ := exists_behind split
  refine ⟨front, back, rfl, stop, @Piece.all_isBlank_of_covered back last.stop ?_ ?_⟩
  · intro lexeme behind
    have inside : lexeme ∈ ofText (front ++ back) := by simp [split, behind]
    have later := start_le_of_mem_lexemesFrom behind
    have wide := start_lt_stop inside
    by_contra solid
    have early := stop_le_last final inside (by simpa using solid)
    omega
  · intro offset after before
    rw [← stop, ← Text.byteLength_append] at before
    obtain ⟨lexeme, inside, begins, ends⟩ := covered offset after before
    exact ⟨lexeme, mem_behind split inside (by omega), begins, ends⟩

end Lexeme

namespace Report

variable {source : Text} {mode : SiteMode} {final last : Lexeme}

theorem canEndAfter_last
    (statement : ((Lexeme.ofText source).filter (·.Significant)).getLast? = some final)
    (solid : ((Lexeme.ofText source).filter (!·.isTrivia)).getLast? = some last) :
    Survey.canEndAfter source none ((Lexeme.ofText source).filter (·.stop ≤ last.stop)) =
      final.canEndStatement := by
  have same : ((Lexeme.ofText source).filter (·.stop ≤ last.stop)).filter
      (Survey.isSignificant source none) = (Lexeme.ofText source).filter (·.Significant) := by
    rw [List.filter_filter]
    apply List.filter_congr
    intro lexeme member
    cases trivia : lexeme.isTrivia with
    | true => simp [Survey.isSignificant, Lexeme.Significant, trivia]
    | false =>
      have early := Lexeme.stop_le_last solid member trivia
      have free : EndInScope none lexeme.stop := trivial
      simp [Survey.isSignificant, Lexeme.Significant, trivia, early, free]
  rw [Survey.canEndAfter, same, statement, Option.any_some]

theorem getLast?_sites
    (solid : ((Lexeme.ofText source).filter (!·.isTrivia)).getLast? = some last)
    (blank : Survey.restOfLineIsBlank source last.stop = true) :
    (sites source mode none).getLast? = some last := by
  obtain ⟨_, trivia⟩ : last ∈ Lexeme.ofText source ∧ last.isTrivia = false := by
    simpa using List.mem_of_getLast? solid
  apply getLast?_filter_of_subset solid
  · intro lexeme _ site
    simp only [Survey.isSite, Bool.and_eq_true] at site
    exact site.1.1
  · have free : EndInScope none last.stop := trivial
    simp [Survey.isSite, trivia, blank, free]

/-- The last statement of a source is terminated, behind the comments that follow it. -/
theorem last_statement_is_terminated (source : Text) (mode : SiteMode) (final last : Lexeme)
    (statement : ((Lexeme.ofText source).filter (·.Significant)).getLast? = some final)
    (ends : final.canEndStatement = true)
    (solid : ((Lexeme.ofText source).filter (!·.isTrivia)).getLast? = some last)
    (covered : Lexeme.Covered source last.stop source.byteLength) :
    (ofSource source mode none).insertions.getLast? =
      some
        { offset := last.stop
          place := source.place last.stop
          reason :=
            if (source.dropBytes last.stop).any Text.isLineBreak then .newStatement
            else .endOfInput } := by
  have canEnd := canEndAfter_last statement solid
  -- What is left behind the last token is blank, so there is a site, and it is the last one.
  obtain ⟨front, back, rfl, stop, blank⟩ := Lexeme.all_isBlank_behind_last solid covered
  have behind : (front ++ back).dropBytes last.stop = back := by
    rw [← stop, Text.dropBytes_byteLength]
  have restOfLine : Survey.restOfLineIsBlank (front ++ back) last.stop = true := by
    rw [Survey.restOfLineIsBlank, behind]
    rw [List.all_eq_true] at blank ⊢
    exact fun c inLine => blank c ((List.takeWhile_prefix _).subset inLine)
  obtain ⟨earlier, parts⟩ :=
    List.getLast?_eq_some_iff.mp (@getLast?_sites (front ++ back) mode last solid restOfLine)
  have fresh := Survey.freshInsertion_behind front back
  rw [if_pos ⟨by rw [stop, canEnd, ends], Policy.inserts_of_blank blank⟩, stop,
    Policy.reason_of_blank blank] at fresh
  rw [insertions_ofSource, parts, List.filterMap_append, behind]
  simp [fresh]

theorem statement_before_comment_is_terminated :
    let source : Text := ['x', ' ', '/', '/', '\r', '\n', ' ', '\u2028']
    (ofSource source .lineEnd none).insertions.getLast? = some ⟨5, ⟨1, 6⟩, .newStatement⟩ := by
  intro source
  have terminated := last_statement_is_terminated source .lineEnd
    ⟨.word, 0, ['x']⟩ ⟨.lineComment, 2, ['/', '/', '\r']⟩
    (by decide +kernel) (by decide +kernel) (by decide +kernel) (by decide +kernel)
  rw [terminated]
  decide +kernel

end Report

end Terminator
