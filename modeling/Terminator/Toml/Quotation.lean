import Terminator.Toml.Scalar

set_option autoImplicit false

namespace Terminator.Toml

def isPlain (c : Char) : Bool :=
  c = '\t' || (0x20 ≤ c.toNat && c.toNat != 0x7F)

def isSpace (c : Char) : Bool :=
  c = ' ' || c = '\t'

def skipSpaces (text : Text) : Text :=
  text.dropWhile isSpace

def newline? : Text → Option Text
  | '\n' :: rest => some rest
  | '\r' :: '\n' :: rest => some rest
  | _ => none

def codePoint? (written : List Char) : Option Char := do
  let code := valueOf 16 (← written.mapM hexValue?)
  if code.isValidChar then some (Char.ofNat code) else none

def shortEscape? : Char → Option Char
  | 'b' => some '\x08'
  | 't' => some '\t'
  | 'n' => some '\n'
  | 'f' => some '\x0c'
  | 'r' => some '\r'
  | '"' => some '"'
  | '\\' => some '\\'
  | _ => none

def startWith (c : Char) : Text × Text → Text × Text
  | (value, rest) => (c :: value, rest)

-- Up to two quotes before the closing three belong to the text.
def closeLines (quote : Char) : Text → Text × Text
  | a :: b :: rest =>
    if a = quote && b = quote then ([quote, quote], rest)
    else if a = quote then ([quote], b :: rest)
    else ([], a :: b :: rest)
  | [a] => if a = quote then ([quote], []) else ([], [a])
  | [] => ([], [])

/-- Reads a text in double quotes from behind its opening quote. With `lines` it may span lines
and is closed by three quotes. While `joining`, blanks and line breaks are passed over, as they
are after a backslash at the end of a line. -/
def readBasic (lines : Bool) : Bool → Text → Option (Text × Text)
  | _, '"' :: '"' :: '"' :: rest =>
    if lines then some (closeLines '"' rest) else some ([], '"' :: '"' :: rest)
  | _, '"' :: rest =>
    if lines then (readBasic lines false rest).map (startWith '"') else some ([], rest)
  | _, '\\' :: 'u' :: a :: b :: c :: d :: rest => do
    let escaped ← codePoint? [a, b, c, d]
    (readBasic lines false rest).map (startWith escaped)
  | _, '\\' :: 'U' :: a :: b :: c :: d :: e :: f :: g :: h :: rest => do
    let escaped ← codePoint? [a, b, c, d, e, f, g, h]
    (readBasic lines false rest).map (startWith escaped)
  | _, '\\' :: c :: rest =>
    match shortEscape? c with
    | some escaped => (readBasic lines false rest).map (startWith escaped)
    | none =>
      if lines && (newline? (skipSpaces (c :: rest))).isSome then readBasic lines true (c :: rest)
      else none
  | joining, '\r' :: '\n' :: rest =>
    if !lines then none
    else if joining then readBasic lines true rest
    else (readBasic lines false rest).map (startWith '\n')
  | joining, c :: rest =>
    if joining && (isSpace c || c = '\n') then readBasic lines true rest
    else if isPlain c || (lines && c = '\n') then
      (readBasic lines false rest).map (startWith c)
    else none
  | _, [] => none

def readLiteral (lines : Bool) : Text → Option (Text × Text)
  | '\'' :: '\'' :: '\'' :: rest =>
    if lines then some (closeLines '\'' rest) else some ([], '\'' :: '\'' :: rest)
  | '\'' :: rest =>
    if lines then (readLiteral lines rest).map (startWith '\'') else some ([], rest)
  | '\r' :: '\n' :: rest =>
    if lines then (readLiteral lines rest).map (startWith '\n') else none
  | c :: rest =>
    if isPlain c || (lines && c = '\n') then (readLiteral lines rest).map (startWith c) else none
  | [] => none

def dropNewline (text : Text) : Text :=
  (newline? text).getD text

def readQuoted : Text → Option (Text × Text)
  | '"' :: '"' :: '"' :: rest => readBasic true false (dropNewline rest)
  | '"' :: rest => readBasic false false rest
  | '\'' :: '\'' :: '\'' :: rest => readLiteral true (dropNewline rest)
  | '\'' :: rest => readLiteral false rest
  | _ => none

def isBareKeyPart (c : Char) : Bool :=
  Text.isAsciiDigit c || Text.isAsciiLetter c || c = '_' || c = '-'

def readKeyPart : Text → Option (Text × Text)
  | '"' :: rest => readBasic false false rest
  | '\'' :: rest => readLiteral false rest
  | text =>
    let bare := text.takeWhile isBareKeyPart
    if bare.isEmpty then none else some (bare, text.dropWhile isBareKeyPart)

def readKey (text : Text) : Option (List Text × Text) :=
  match readKeyPart (skipSpaces text) with
  | none => none
  | some (part, rest) =>
    match skipSpaces rest with
    | '.' :: rest =>
      if rest.length < text.length then
        (readKey rest).map fun (parts, rest) => (part :: parts, rest)
      else none
    | rest => some ([part], rest)
termination_by text.length

end Terminator.Toml
