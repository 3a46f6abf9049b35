import Terminator.Setting
import Terminator.Text.Decimal

set_option autoImplicit false

namespace Terminator

inductive KeyStep where
  | member (name : Text)
  | item (index : Int)
  deriving DecidableEq, Repr

abbrev Key := List KeyStep

namespace Key

def isNamePart (c : Char) : Bool :=
  Text.isAsciiLetter c || Text.isAsciiDigit c || c = '_' || c = '-' || c = ' '

def readName (text : Text) : Option (Text × Text) :=
  let name := text.takeWhile isNamePart
  if name.isEmpty then none else some (name, text.dropWhile isNamePart)

def indexBound : Nat := 0x8000000000000000

def isSpace (c : Char) : Bool :=
  c = ' ' || c = '\t'

def readIndex (text : Text) : Option (Int × Text) :=
  let inside := text.dropWhile isSpace
  let (negative, written) := match inside with
    | '-' :: rest => (true, rest)
    | rest => (false, rest)
  let digits := written.takeWhile Text.isAsciiDigit
  let value := Text.decimalValue digits
  let greatest := if negative then indexBound else indexBound - 1
  match (written.dropWhile Text.isAsciiDigit).dropWhile isSpace with
  | ']' :: rest =>
    if digits.isEmpty || greatest < value then none
    else some (if negative then -(value : Int) else value, rest)
  | _ => none

def readSteps : Text → Option Key
  | [] => some []
  | c :: rest => do
    let (step, later) ←
      if c = '.' then (readName rest).map fun (name, later) => (KeyStep.member name, later)
      else if c = '[' then (readIndex rest).map fun (index, later) => (KeyStep.item index, later)
      else none
    if later.length ≤ rest.length then
      let steps ← readSteps later
      some (step :: steps)
    else none
termination_by text => text.length

def ofText? (text : Text) : Option Key := do
  let (name, rest) ← readName text
  let steps ← readSteps rest
  some (.member name :: steps)

/-- Sets the setting under a key, unless an index in the key selects no place. What is in the way of
the key is replaced. -/
def set? (value : Setting) : Key → Setting → Option Setting
  | [], _ => some value
  | [.member name], root => some (root.assign name value)
  | [.item index], root => root.modifyItem index fun _ => some value
  | .member name :: rest, root => root.modifyMember name (set? value rest)
  | .item index :: rest, root => root.modifyItem index (set? value rest)

end Key

end Terminator
