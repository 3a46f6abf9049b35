import Terminator.Lexeme
import Terminator.Text.Letter

set_option autoImplicit false

namespace Terminator

structure Piece where
  kind : Option LexemeKind
  text : Text
  deriving DecidableEq, Repr

namespace Piece

def isSpace (c : Char) : Bool :=
  c = '\t' || c = '\x0b' || c = '\x0c' || c = '\r' || c = ' ' || c = '\u0085' || c = '\u00a0' ||
    c = '\u1680' || ('\u2000' ≤ c && c ≤ '\u200a') || c = '\u202f' || c = '\u205f' || c = '\u3000'

def startsWord (c : Char) : Bool :=
  Text.isLetter c || c = '_' || c = '$'

def continuesWord (c : Char) : Bool :=
  startsWord c || Text.isNumeral c

def continuesFraction (c : Char) : Bool :=
  Text.isAsciiDigit c || Text.isAsciiLetter c || c = '_'

def continuesNumber (c : Char) : Bool :=
  continuesFraction c || c = '.'

def run (holds : Char → Bool) (text : Text) : Nat :=
  (text.takeWhile holds).length

def commentClose? : Text → Option Nat
  | '*' :: '/' :: _ => some 2
  | _ :: rest => (commentClose? rest).map (· + 1)
  | [] => none

/-- Reads the items of a literal and says whether its quote follows them. An item is a character
or a backslash with the character after it. A line feed is never escaped, and stands in a literal
only where that may span lines. -/
def quotedItems (quote : Char) (spansLines : Bool) : Text → Nat × Bool
  | '\\' :: c :: rest =>
    if c = '\n' then (0, false)
    else
      let (count, closed) := quotedItems quote spansLines rest
      (count + 2, closed)
  | c :: rest =>
    if c = quote then (0, true)
    else if c = '\\' || (c = '\n' && !spansLines) then (0, false)
    else
      let (count, closed) := quotedItems quote spansLines rest
      (count + 1, closed)
  | [] => (0, false)

-- A quote that is not closed takes its items with it, and stands alone if it has none.
def cutQuote (kind : LexemeKind) (quote : Char) (spansLines : Bool) (rest : Text) :
    Option LexemeKind × Nat :=
  match quotedItems quote spansLines rest with
  | (count, true) => (some kind, count + 1)
  | (0, false) => (some .punctuation, 0)
  | (count, false) => (none, count)

def cutSlash : Text → Option LexemeKind × Nat
  | '/' :: rest => (some .lineComment, run (fun c => !Text.isLineBreak c) rest + 1)
  | '*' :: rest =>
    match commentClose? rest with
    | some count => (some .blockComment, count + 1)
    | none => (none, rest.length + 1)
  | _ => (some .punctuation, 0)

def cut (first : Char) (rest : Text) : Option LexemeKind × Nat :=
  if isSpace first then (some .whitespace, run isSpace rest)
  else if Text.isLineBreak first then (some .lineBreak, 0)
  else if Text.isAsciiDigit first then (some .number, run continuesNumber rest)
  else if startsWord first then (some .word, run continuesWord rest)
  else if Text.isNumeral first then (none, 0)
  else if first = '/' then cutSlash rest
  else if first = '"' then cutQuote .stringLiteral '"' false rest
  else if first = '\'' then cutQuote .charLiteral '\'' false rest
  else if first = '\x60' then cutQuote .templateLiteral '\x60' true rest
  else if first = '.' && (rest.head?).any Text.isAsciiDigit then
    (some .number, run continuesFraction rest)
  else if first = '+' && rest.head? = some '+' then (some .increment, 1)
  else if first = '-' && rest.head? = some '-' then (some .decrement, 1)
  else if first = ')' then (some .closeParen, 0)
  else if first = ']' then (some .closeBracket, 0)
  else if first = '}' then (some .closeBrace, 0)
  else (some .punctuation, 0)

def ofText : Text → List Piece
  | [] => []
  | first :: rest =>
    let piece := cut first rest
    { kind := piece.1, text := first :: rest.take piece.2 } :: ofText (rest.drop piece.2)
termination_by text => text.length
decreasing_by simp only [List.length_drop, List.length_cons]; omega

def lexemesFrom : Nat → List Piece → List Lexeme
  | _, [] => []
  | start, piece :: rest =>
    let later := lexemesFrom (start + piece.text.byteLength) rest
    match piece.kind with
    | some kind => { kind, start, text := piece.text } :: later
    | none => later

theorem flatMap_text_ofText (source : Text) : (ofText source).flatMap (·.text) = source := by
  fun_induction ofText source with
  | case1 => rfl
  | case2 first rest piece ih => simp [List.flatMap_cons, ih]

end Piece

def Lexeme.ofText (source : Text) : List Lexeme :=
  Piece.lexemesFrom 0 (Piece.ofText source)

end Terminator
