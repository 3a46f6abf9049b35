import Terminator.Span

set_option autoImplicit false

namespace Terminator

inductive LexemeKind where
  | whitespace
  | lineBreak
  | lineComment
  | blockComment
  | stringLiteral
  | charLiteral
  | templateLiteral
  | number
  | word
  | increment
  | decrement
  | closeParen
  | closeBracket
  | closeBrace
  | punctuation
  deriving DecidableEq, Repr

structure Lexeme where
  kind : LexemeKind
  start : Nat
  text : Text
  deriving DecidableEq, Repr

namespace Lexeme

def stop (lexeme : Lexeme) : Nat :=
  lexeme.start + lexeme.text.byteLength

def span (lexeme : Lexeme) : Span :=
  { start := lexeme.start, stop := lexeme.stop }

def isTrivia (lexeme : Lexeme) : Bool :=
  match lexeme.kind with
  | .whitespace | .lineBreak => true
  | _ => false

def isComment (lexeme : Lexeme) : Bool :=
  match lexeme.kind with
  | .lineComment | .blockComment => true
  | _ => false

def openWords : List String :=
  ["and", "as", "case", "catch", "class", "construct", "delegate", "do", "else", "enhancement",
    "extends", "final", "finally", "for", "foreach", "function", "if", "implements", "in",
    "instanceof", "interface", "new", "not", "or", "override", "package", "private", "property",
    "protected", "public", "static", "switch", "throw", "try", "typeas", "typeis", "typeof",
    "uses", "using", "var", "while"]

def canEndStatement (lexeme : Lexeme) : Bool :=
  match lexeme.kind with
  | .stringLiteral | .charLiteral | .templateLiteral | .number | .increment | .decrement
  | .closeParen | .closeBracket | .closeBrace => true
  | .word => !openWords.contains (String.ofList lexeme.text)
  | .whitespace | .lineBreak | .lineComment | .blockComment | .punctuation => false

end Lexeme

end Terminator
