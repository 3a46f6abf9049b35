import Terminator.Text

set_option autoImplicit false

namespace Terminator

inductive FileContent where
  | bytes (content : ByteArray)
  | directory
  | missing
  | blocked
  | nameTooLong
  | unreadable (problem : String)

namespace FileContent

def text : FileContent → Except String Text
  | .bytes content =>
    match String.fromUTF8? content with
    | some text => .ok text.toList
    | none => .error "stream did not contain valid UTF-8"
  | .directory => .error "Is a directory (os error 21)"
  | .missing => .error "No such file or directory (os error 2)"
  | .blocked => .error "Not a directory (os error 20)"
  | .nameTooLong => .error "File name too long (os error 36)"
  | .unreadable problem => .error problem

end FileContent

abbrev Files := Text → FileContent

def pathParts (path : Text) : List Text :=
  Text.parts '/' path

def isStandStill (part : Text) : Bool :=
  part = [] || part = ['.']

def isStepUp (part : Text) : Bool :=
  part = ['.', '.']

structure FileTree where
  entries : List (List Text × FileContent)

namespace FileTree

def ofList (entries : List (Text × FileContent)) : FileTree where
  entries := entries.map fun (path, content) =>
    ((pathParts path).filter fun part => !isStandStill part, content)

def find (tree : FileTree) (place : List Text) : FileContent :=
  match tree.entries.find? (·.1 = place) with
  | some (_, content) => content
  | none =>
    if place.isEmpty || tree.entries.any fun (path, _) => place.isPrefixOf path then .directory
    else .missing

def outside (parts : List Text) : FileContent :=
  if parts.all fun part => isStandStill part || isStepUp part then .directory else .missing

def follow (tree : FileTree) : List Text → List Text → FileContent
  | place, [] => tree.find place
  | place, part :: rest =>
    match tree.find place with
    | .directory =>
      if isStandStill part then follow tree place rest
      else if isStepUp part then
        if place.isEmpty then outside rest else follow tree place.dropLast rest
      else if 255 < part.byteLength then .nameTooLong
      else follow tree (place ++ [part]) rest
    | .bytes _ => .blocked
    | other => other

def files (tree : FileTree) : Files
  | [] => .missing
  | '/' :: rest => outside (pathParts rest)
  | path => if 4096 ≤ path.byteLength then .nameTooLong else tree.follow [] (pathParts path)

end FileTree

end Terminator
