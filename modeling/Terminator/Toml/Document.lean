import Terminator.Toml
import Terminator.Toml.Quotation

set_option autoImplicit false

namespace Terminator.Toml

def skipLayout (inComment : Bool) : Text → Option Text
  | '\r' :: '\n' :: rest => skipLayout false rest
  | c :: rest =>
    if c = '\n' then skipLayout false rest
    else if inComment then if isPlain c then skipLayout true rest else none
    else if isSpace c then skipLayout false rest
    else if c = '#' then skipLayout true rest
    else some (c :: rest)
  | [] => if inComment then none else some []

def readItems (readValue : Text → Option (Toml × Text)) (text : Text) :
    Option (List Toml × Text) :=
  match skipLayout false text with
  | none => none
  | some (']' :: rest) => some ([], rest)
  | some start => do
    let (item, rest) ← readValue start
    match ← skipLayout false rest with
    | ',' :: rest =>
      if rest.length < text.length then
        let (items, rest) ← readItems readValue rest
        some (item :: items, rest)
      else none
    | ']' :: rest => some ([item], rest)
    | _ => none
termination_by text.length

def keyAndPath? (parts : List Text) : Option (List Text × Text) :=
  if 80 ≤ parts.length then none
  else parts.getLast?.map fun key => (parts.dropLast, key)

def readPair (readValue : Text → Option (Toml × Text)) (text : Text) :
    Option ((List Text × Text × Toml) × Text) := do
  let (parts, rest) ← readKey text
  let (path, key) ← keyAndPath? parts
  match rest with
  | '=' :: rest =>
    let (value, rest) ← readValue (skipSpaces rest)
    some ((path, key, value), rest)
  | _ => none

-- There is no comma behind the last pair.
def readPairs (readValue : Text → Option (Toml × Text)) (entries : Entries) (text : Text) :
    Option (Entries × Text) := do
  let ((path, key, value), rest) ← readPair readValue text
  let entries ← entries.assign path key value
  match skipSpaces rest with
  | ',' :: rest =>
    if rest.length < text.length then readPairs readValue entries rest else none
  | '\x7d' :: rest => some (entries, rest)
  | _ => none
termination_by text.length

def readValue : Nat → Text → Option (Toml × Text)
  | 0, '[' :: _ => none
  | depth + 1, '[' :: rest =>
    (readItems (readValue depth) rest).map fun (items, rest) => (.array items, rest)
  | 0, '\x7b' :: _ => none
  | depth + 1, '\x7b' :: rest =>
    match skipSpaces rest with
    | '\x7d' :: rest => some (.table [], rest)
    | rest => (readPairs (readValue depth) [] rest).map fun (entries, rest) =>
        (.table (Draft.finishEntries entries), rest)
  | _, text =>
    match text with
    | '"' :: _ | '\'' :: _ => (readQuoted text).map fun (value, rest) => (.string value, rest)
    | _ => readScalar text

def deepest : Nat := 79

def endLine? (text : Text) : Option Text :=
  let rest := skipSpaces text
  let rest := match rest with
    | '#' :: comment => comment.dropWhile isPlain
    | _ => rest
  match rest with
  | [] => some []
  | _ => newline? rest

structure Progress where
  entries : Entries
  current : List Text

def readStatement (progress : Progress) : Text → Option (Progress × Text)
  | '[' :: '[' :: rest => do
    let (parts, rest) ← readKey rest
    let (path, key) ← keyAndPath? parts
    let entries ← progress.entries.append path key
    match rest with
    | ']' :: ']' :: rest => some ({ entries, current := parts }, rest)
    | _ => none
  | '[' :: rest => do
    let (parts, rest) ← readKey rest
    let (path, key) ← keyAndPath? parts
    let entries ← progress.entries.declare path key
    match rest with
    | ']' :: rest => some ({ entries, current := parts }, rest)
    | _ => none
  | text => do
    let ((path, key, value), rest) ← readPair (readValue deepest) text
    let assign (_ : Bool) (entries : Entries) : Option Entries := entries.assign path key value
    let entries ← Entries.within false assign progress.current false progress.entries
    some ({ progress with entries }, rest)

def readLines (progress : Progress) (text : Text) : Option Entries :=
  match skipSpaces text with
  | [] => some progress.entries
  | start =>
    let step := if start.head? = some '#' || (newline? start).isSome then some (progress, start)
      else readStatement progress start
    match step with
    | none => none
    | some (progress, rest) =>
      match endLine? rest with
      | none => none
      | some rest => if rest.length < text.length then readLines progress rest else none
termination_by text.length

def ofDocument? (text : Text) : Option (List (Text × Toml)) :=
  let text := match text with
    | '\ufeff' :: rest => rest
    | _ => text
  (readLines { entries := [], current := [] } text).map Draft.finishEntries

end Terminator.Toml
