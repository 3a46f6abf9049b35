import Terminator.Cursor
import Terminator.Text.Alphabetic

set_option autoImplicit false

namespace Terminator

inductive LineStart where
  | statement
  | continuation
  | dot
  | plus
  | minus
  | bang
  | wordWithI
  deriving DecidableEq, Repr

namespace LineStart

def continuationMarks : List Char :=
  ['\x60', ',', ':', ';', '*', '%', '>', '<', '=', '[', '(', '?', '^', '|', '&', '/']

def ofChar? : Option Char → LineStart
  | none => .statement
  | some c =>
    if continuationMarks.contains c then .continuation
    else if c = '.' then .dot
    else if c = '+' then .plus
    else if c = '-' then .minus
    else if c = '!' then .bang
    else if c = 'i' then .wordWithI
    else .statement

end LineStart

inductive BinaryWord where
  | inOperator
  | instanceofOperator
  | otherWord
  deriving DecidableEq, Repr

namespace BinaryWord

variable {C : Type} [Cursor C]

-- Digits, underscores and dollar signs do not make a word longer.
def wordGoesOn (cursor : C) : Bool :=
  (Cursor.peek cursor).any Text.isAlphabetic

def skipLetters : List Char → C → Bool × C
  | [], cursor => (true, cursor)
  | letter :: rest, cursor =>
    if Cursor.peek cursor = some letter then skipLetters rest (Cursor.skip cursor)
    else (false, cursor)

/-- Reads the word ahead, which begins with `i`, up to the first character that settles it. That
character is left unread. -/
def read (cursor : C) : BinaryWord × C :=
  let cursor := Cursor.skip cursor
  if Cursor.peek cursor = some 'n' then
    let cursor := Cursor.skip cursor
    if wordGoesOn cursor then
      match skipLetters ['s', 't', 'a', 'n', 'c', 'e', 'o', 'f'] cursor with
      | (true, cursor) => (if wordGoesOn cursor then .otherWord else .instanceofOperator, cursor)
      | (false, cursor) => (.otherWord, cursor)
    else
      (.inOperator, cursor)
  else
    (.otherWord, cursor)

end BinaryWord

end Terminator
