import Mathlib.Computability.Language
import Terminator.Proofs.PieceBoundaries

set_option autoImplicit false

namespace Terminator

open scoped Computability

namespace Pattern

def one (holds : Char → Bool) : Language Char :=
  {text | ∃ c, holds c = true ∧ text = [c]}

def slash : Language Char := one (· = '/')

def star : Language Char := one (· = '*')

def noStar : Language Char := one (· ≠ '*')

def neither : Language Char := one fun c => c ≠ '/' && c ≠ '*'

def stars : Language Char := star * star∗

/-- The pattern `/\*[^*]*\*+([^/*][^*]*\*+)*/`. -/
def blockComment : Language Char :=
  slash * star * noStar∗ * stars * (neither * noStar∗ * stars)∗ * slash

def body : Language Char :=
  noStar∗ * (star * (star∗ * ((neither * noStar∗ * stars)∗ * slash)))

def behindStar : Language Char :=
  star∗ * ((neither * noStar∗ * stars)∗ * slash)

theorem kstar_mul_eq (repeated behind : Language Char) :
    repeated∗ * behind = behind + repeated * (repeated∗ * behind) := by
  conv_lhs => rw [← Language.one_add_self_mul_kstar_eq_kstar, add_mul, one_mul, mul_assoc]

theorem blockComment_eq : blockComment = slash * (star * body) := by
  simp only [blockComment, body, stars, mul_assoc]

theorem body_eq : body = star * behindStar + noStar * body :=
  kstar_mul_eq noStar (star * behindStar)

theorem behindStar_eq : behindStar = slash + neither * body + star * behindStar := by
  have stretches : (neither * noStar∗ * stars)∗ * slash = slash + neither * body := by
    rw [kstar_mul_eq]
    simp only [body, stars, ← mul_assoc]
  conv_lhs => rw [behindStar, kstar_mul_eq, stretches]
  rw [← stretches, behindStar]

variable {holds : Char → Bool} {c : Char} {rest text : Text}

theorem cons_mem_one : c :: rest ∈ one holds ↔ holds c = true ∧ rest = [] := by
  constructor
  · rintro ⟨d, held, same⟩
    obtain ⟨rfl, rfl⟩ := List.cons.inj same
    exact ⟨held, rfl⟩
  · rintro ⟨held, rfl⟩
    exact ⟨c, held, rfl⟩

theorem cons_mem_one_mul {language : Language Char} :
    c :: rest ∈ one holds * language ↔ holds c = true ∧ rest ∈ language := by
  constructor
  · rintro ⟨first, ⟨d, held, rfl⟩, second, member, whole⟩
    obtain ⟨rfl, rfl⟩ := List.cons.inj whole
    exact ⟨held, member⟩
  · rintro ⟨held, member⟩
    exact Language.mem_mul.mpr ⟨[c], ⟨c, held, rfl⟩, rest, member, rfl⟩

theorem nil_not_mem_one_mul (language : Language Char) : [] ∉ one holds * language := by
  rintro ⟨first, ⟨c, held, rfl⟩, second, member, whole⟩
  cases whole

theorem nil_not_mem_body : [] ∉ body := by
  rw [body_eq, Language.mem_add, not_or]
  exact ⟨nil_not_mem_one_mul _, nil_not_mem_one_mul _⟩

theorem cons_mem_body_iff :
    c :: rest ∈ body ↔ c = '*' ∧ rest ∈ behindStar ∨ c ≠ '*' ∧ rest ∈ body := by
  conv_lhs => rw [body_eq, Language.mem_add, star, noStar, cons_mem_one_mul, cons_mem_one_mul]
  simp only [decide_eq_true_eq]

-- Behind a star a slash is the end, and anything else goes on as the body would.
theorem mem_behindStar_iff :
    text ∈ behindStar ↔ if text.head? = some '/' then text = ['/'] else text ∈ body := by
  rw [behindStar_eq, Language.mem_add, Language.mem_add, slash, neither, star]
  cases text with
  | nil =>
    have nothing : [] ∉ one (· = '/') := by
      rintro ⟨c, held, same⟩
      cases same
    simp [nothing, nil_not_mem_one_mul, nil_not_mem_body]
  | cons c rest =>
    rw [cons_mem_one, cons_mem_one_mul, cons_mem_one_mul, cons_mem_body_iff]
    by_cases closes : c = '/'
    · simp [closes]
    · by_cases again : c = '*' <;> simp [closes, again]

theorem cons_mem_body :
    c :: rest ∈ body ↔
      if c = '*' ∧ rest.head? = some '/' then rest = ['/'] else rest ∈ body := by
  rw [cons_mem_body_iff, mem_behindStar_iff]
  by_cases opens : c = '*' <;> simp [opens]

theorem mem_body_iff : text ∈ body ↔ Piece.commentClose? text = some text.length := by
  induction text with
  | nil => exact iff_of_false nil_not_mem_body (by simp [Piece.commentClose?])
  | cons c rest ih =>
    rw [cons_mem_body, Piece.commentClose?_cons]
    by_cases closes : c = '*' ∧ rest.head? = some '/'
    · obtain ⟨tail, rfl⟩ := List.head?_eq_some_iff.mp closes.2
      simp [closes]
    · simp [closes, ih]

end Pattern

namespace Text

def ClosesAt (text : Text) (place : Nat) : Prop :=
  ['*', '/'] <+: text.drop place

instance (text : Text) : DecidablePred text.ClosesAt :=
  fun place => inferInstanceAs (Decidable (['*', '/'] <+: text.drop place))

structure FirstClose (text : Text) (place : Nat) : Prop where
  behind : 2 ≤ place
  closes : text.ClosesAt place
  first : ∀ earlier, 2 ≤ earlier → earlier < place → ¬ text.ClosesAt earlier

end Text

namespace Piece

variable {rest more text : Text} {count place : Nat}

theorem closesAt_cons_zero {c : Char} :
    Text.ClosesAt (c :: rest) 0 ↔ c = '*' ∧ rest.head? = some '/' := by
  cases rest <;> simp [Text.ClosesAt, List.cons_prefix_cons, eq_comm]

theorem commentClose?_eq_some_iff :
    commentClose? text = some count ↔ ∃ place, count = place + 2 ∧ text.ClosesAt place ∧
      ∀ earlier, earlier < place → ¬ text.ClosesAt earlier := by
  induction text generalizing count with
  | nil => simp [commentClose?, Text.ClosesAt]
  | cons c rest ih =>
    rw [commentClose?_cons]
    by_cases closes : c = '*' ∧ rest.head? = some '/'
    · rw [if_pos closes]
      have here := closesAt_cons_zero.mpr closes
      constructor
      · rintro ⟨⟩
        exact ⟨0, rfl, here, fun earlier before => absurd before (Nat.not_lt_zero _)⟩
      · rintro ⟨place, rfl, _, first⟩
        cases place with
        | zero => rfl
        | succ place => exact absurd here (first 0 (Nat.succ_pos place))
    · rw [if_neg closes, Option.map_eq_some_iff]
      have apart : ¬ Text.ClosesAt (c :: rest) 0 := closesAt_cons_zero.not.mpr closes
      constructor
      · rintro ⟨inner, found, rfl⟩
        obtain ⟨place, rfl, here, first⟩ := ih.mp found
        refine ⟨place + 1, by omega, here, fun earlier before => ?_⟩
        cases earlier with
        | zero => exact apart
        | succ earlier => exact first earlier (Nat.lt_of_succ_lt_succ before)
      · rintro ⟨place, rfl, here, first⟩
        cases place with
        | zero => exact absurd here apart
        | succ place =>
          refine ⟨place + 2, ih.mpr ⟨place, rfl, here, fun earlier before => ?_⟩, by omega⟩
          exact first (earlier + 1) (Nat.succ_lt_succ before)

theorem firstClose_iff {body : Text} :
    Text.FirstClose ('/' :: '*' :: body) place ↔ commentClose? body = some place := by
  rw [commentClose?_eq_some_iff]
  constructor
  · rintro ⟨behind, closes, first⟩
    obtain ⟨place, rfl⟩ := Nat.exists_eq_add_of_le' behind
    exact ⟨place, rfl, closes, fun earlier before => first (earlier + 2) (by omega) (by omega)⟩
  · rintro ⟨place, rfl, closes, first⟩
    refine ⟨by omega, closes, fun earlier behind before => ?_⟩
    obtain ⟨earlier, rfl⟩ := Nat.exists_eq_add_of_le' behind
    exact first earlier (by omega)

theorem mem_blockComment_iff :
    text ∈ Pattern.blockComment ↔
      ∃ body, text = '/' :: '*' :: body ∧ commentClose? body = some body.length := by
  rw [Pattern.blockComment_eq, Pattern.slash, Pattern.star]
  constructor
  · rintro ⟨_, ⟨c, slash, rfl⟩, _, ⟨_, ⟨d, star, rfl⟩, body, member, rfl⟩, rfl⟩
    rw [decide_eq_true_eq] at slash star
    exact ⟨body, by simp [slash, star], Pattern.mem_body_iff.mp member⟩
  · rintro ⟨body, rfl, closed⟩
    rw [Pattern.cons_mem_one_mul, Pattern.cons_mem_one_mul, Pattern.mem_body_iff]
    exact ⟨rfl, rfl, closed⟩

theorem mem_blockComment_iff_firstClose :
    text ∈ Pattern.blockComment ↔ ['/', '*'] <+: text ∧ text.FirstClose (text.length - 2) := by
  rw [mem_blockComment_iff]
  constructor
  · rintro ⟨body, rfl, closed⟩
    exact ⟨⟨body, rfl⟩, firstClose_iff.mpr closed⟩
  · rintro ⟨⟨body, rfl⟩, closes⟩
    exact ⟨body, rfl, firstClose_iff.mp closes⟩

theorem commentClose?_le_length (closed : commentClose? text = some count) :
    count ≤ text.length := by
  obtain ⟨place, rfl, closes, _⟩ := commentClose?_eq_some_iff.mp closed
  have inside := closes.length_le
  simp only [List.length_cons, List.length_nil, List.length_drop] at inside
  omega

theorem commentClose?_append_of_closed (closed : commentClose? rest = some count) :
    commentClose? (rest ++ more) = some count := by
  induction rest generalizing count with
  | nil => cases closed
  | cons c tail ih =>
    rw [commentClose?_cons] at closed
    rw [List.cons_append, commentClose?_cons]
    by_cases closes : c = '*' ∧ tail.head? = some '/'
    · rw [if_pos closes] at closed
      rw [if_pos ⟨closes.1, by rw [List.head?_append, closes.2]; rfl⟩, closed]
    · rw [if_neg closes, Option.map_eq_some_iff] at closed
      obtain ⟨inner, found, rfl⟩ := closed
      have wide : tail ≠ [] := by
        rintro rfl
        cases found
      rw [List.head?_append_of_ne_nil _ wide, if_neg closes, ih found, Option.map_some]

-- A comment that is closed cannot be made longer.
theorem mem_blockComment_iff_of_prefix {body comment : Text}
    (closed : commentClose? body = some place) (front : comment <+: '/' :: '*' :: body) :
    comment ∈ Pattern.blockComment ↔ comment = '/' :: '*' :: body.take place := by
  rw [mem_blockComment_iff]
  constructor
  · rintro ⟨inner, rfl, ends⟩
    rw [List.cons_prefix_cons, List.cons_prefix_cons] at front
    obtain ⟨more, rfl⟩ := front.2.2
    have same : inner.length = place :=
      Option.some.inj ((commentClose?_append_of_closed ends).symm.trans closed)
    rw [← same, List.take_left]
  · rintro rfl
    have inside : (body.take place).length = place :=
      List.length_take_of_le (commentClose?_le_length closed)
    rw [← List.take_append_drop place body] at closed
    exact ⟨_, rfl, by rw [inside, commentClose?_append closed (Nat.le_of_eq inside.symm)]⟩

theorem cut_blockComment (body : Text) :
    cut '/' ('*' :: body) =
      match commentClose? body with
      | some count => (some .blockComment, count + 1)
      | none => (none, body.length + 1) :=
  rfl

end Piece

namespace Lexeme

variable {start : Nat} {front body : Text} {lexeme : Lexeme}

theorem blockComment_mem_lexemesFrom {place : Nat}
    (closed : Piece.commentClose? body = some place) :
    { kind := .blockComment, start, text := '/' :: '*' :: body.take place } ∈
      Piece.lexemesFrom start (Piece.ofText ('/' :: '*' :: body)) := by
  have cut := Piece.cut_blockComment body
  rw [closed] at cut
  rw [Piece.lexemesFrom_of_kind (congrArg Prod.fst cut), cut]
  exact List.mem_cons_self

theorem eq_blockComment_of_start
    (member : lexeme ∈ Piece.lexemesFrom start (Piece.ofText ('/' :: '*' :: body)))
    (first : lexeme.start = start) :
    ∃ place, Piece.commentClose? body = some place ∧
      lexeme = { kind := .blockComment, start, text := '/' :: '*' :: body.take place } := by
  obtain ⟨c, rest, same, kind, text⟩ := Piece.exists_cut_of_start member first
  obtain ⟨rfl, rfl⟩ := List.cons.inj same
  rw [Piece.cut_blockComment] at kind text
  cases closed : Piece.commentClose? body with
  | none =>
    rw [closed] at kind
    cases kind
  | some place =>
    rw [closed] at kind text
    obtain ⟨_, _, _⟩ := lexeme
    cases kind
    exact ⟨place, rfl, by simp_all⟩

/-- A block comment ends where it can be closed first, whatever stands in its body: that is what its
pattern says, and what is cut wherever a piece begins with its opening. -/
theorem blockComment_ends_at_first_close :
    (∀ text : Text, text ∈ Pattern.blockComment ↔
      ['/', '*'] <+: text ∧ 4 ≤ text.length ∧ ['*', '/'] <:+ text ∧
        ∀ place, 2 ≤ place → place + 2 < text.length → ¬ text.ClosesAt place) ∧
    ∀ front text : Text, Piece.CutAt (front ++ text) front.byteLength → ['/', '*'] <+: text →
      (∀ place, text.FirstClose place →
        { kind := .blockComment, start := front.byteLength, text := text.take (place + 2) } ∈
          ofText (front ++ text)) ∧
      ∀ lexeme ∈ ofText (front ++ text), lexeme.start = front.byteLength →
        lexeme.kind = .blockComment ∧
          ∀ comment, comment <+: text →
            (comment ∈ Pattern.blockComment ↔ comment = lexeme.text) := by
  constructor
  · intro text
    rw [Piece.mem_blockComment_iff_firstClose]
    constructor
    · rintro ⟨opens, closes⟩
      have wide := closes.behind
      refine ⟨opens, by omega, ?_, fun place behind before => closes.first place behind (by omega)⟩
      have last := closes.closes.eq_of_length (by simp; omega)
      exact last ▸ List.drop_suffix _ _
    · rintro ⟨opens, long, closes, first⟩
      refine ⟨opens, by omega, ?_, fun earlier behind before => first earlier behind (by omega)⟩
      rw [Text.ClosesAt, List.suffix_iff_eq_drop.mp closes]
      exact List.prefix_rfl
  · rintro front _ cut ⟨body, rfl⟩
    constructor
    · intro place closes
      obtain ⟨place, rfl⟩ := Nat.exists_eq_add_of_le' closes.behind
      rw [ofText_of_cutAt cut]
      exact List.mem_append_right _
        (blockComment_mem_lexemesFrom (Piece.firstClose_iff.mp closes))
    · intro lexeme member first
      have less := start_lt_stop member
      have behind := mem_behind_cut cut member (by omega)
      obtain ⟨place, closed, rfl⟩ := eq_blockComment_of_start behind first
      exact ⟨rfl, fun comment => Piece.mem_blockComment_iff_of_prefix closed⟩

-- The stars run up to the slash that closes the comment, and what follows would close it again.
theorem blockComment_of_stars :
    let front : Text := ['a']
    let text : Text := ['/', '*', '*', '*', '/', '*', '/']
    let comment : Text := ['/', '*', '*', '*', '/']
    Piece.CutAt (front ++ text) front.byteLength ∧ text.FirstClose 3 ∧
      { kind := .blockComment, start := 1, text := comment } ∈ ofText (front ++ text) ∧
      comment ∈ Pattern.blockComment ∧ text ∉ Pattern.blockComment := by
  intro front text comment
  have cut : Piece.CutAt (front ++ text) front.byteLength := by decide +kernel
  have closes : text.FirstClose 3 := ⟨by decide, by decide, by decide⟩
  obtain ⟨_, lexed⟩ := blockComment_ends_at_first_close
  obtain ⟨found, only⟩ := lexed front text cut ⟨_, rfl⟩
  have member : { kind := .blockComment, start := 1, text := comment } ∈ ofText (front ++ text) :=
    found 3 closes
  have told := (only _ member rfl).2
  exact ⟨cut, closes, member, (told comment (List.take_prefix 5 text)).mpr rfl,
    (told text List.prefix_rfl).not.mpr (by decide)⟩

end Lexeme

end Terminator
