import Terminator.Survey
import Terminator.Text.Decimal

set_option autoImplicit false

namespace Terminator

structure Report where
  sitesChecked : Nat
  insertions : List Insertion
  deriving DecidableEq, Repr

namespace Report

def ofVisits (visits : List Visit) : Report where
  sitesChecked := visits.length
  insertions := visits.filterMap (·.insertion)

def ofSource (source : Text) (sites : SiteMode) (scope : Option (List Span)) : Report :=
  ofVisits (Survey.visits source sites scope)

inductive RenderError where
  | noSuchLine (line : Nat)
  | noSuchColumn (column : Nat)
  deriving DecidableEq, Repr

def headline (insertion : Insertion) : Text :=
  Text.decimal insertion.place.line ++ [':'] ++ Text.decimal insertion.place.column ++ [' '] ++
    Text.of insertion.reason.describe ++ ['\n']

def margin : Text := [' ', ' ', ' ', ' ']

/-- Two to the power of 63. No line of text is as long as this. -/
def widthBound : Nat := 0x8000000000000000

def context (source : Text) (insertion : Insertion) : Except RenderError Text :=
  match source.line? insertion.place.line, insertion.place.column with
  | none, _ => .error (.noSuchLine insertion.place.line)
  | some _, 0 => .error (.noSuchColumn 0)
  | some line, before + 1 =>
    if line.length < before && widthBound ≤ before then .error (.noSuchColumn (before + 1))
    else .ok (margin ++ line ++ ['\n'] ++ margin ++ List.replicate before ' ' ++ ['^', '\n'])

def renderInsertions (source : Text) (withContext : Bool) :
    List Insertion → Except RenderError Text
  | [] => .ok []
  | insertion :: rest => do
    let shown ← if withContext then context source insertion else .ok []
    let later ← renderInsertions source withContext rest
    .ok (headline insertion ++ shown ++ later)

def render (report : Report) (source : Text) (withContext : Bool) : Except RenderError Text :=
  renderInsertions source withContext report.insertions

def jsonField (name : String) (value : Text) : Text :=
  ['"'] ++ Text.of name ++ ['"', ':', ' '] ++ value

def jsonInsertion (insertion : Insertion) : Text :=
  Text.of "    \x7b\n      " ++ jsonField "offset" (Text.decimal insertion.offset) ++
    Text.of ",\n      " ++ jsonField "line" (Text.decimal insertion.place.line) ++
    Text.of ",\n      " ++ jsonField "column" (Text.decimal insertion.place.column) ++
    Text.of ",\n      " ++ jsonField "reason" (['"'] ++ Text.of insertion.reason.name ++ ['"']) ++
    Text.of "\n    \x7d"

def jsonList : List Insertion → Text
  | [] => ['[', ']']
  | first :: rest =>
    Text.of "[\n" ++ jsonInsertion first ++
      rest.flatMap (fun insertion => [',', '\n'] ++ jsonInsertion insertion) ++ Text.of "\n  ]"

def toJson (report : Report) : Text :=
  Text.of "\x7b\n  " ++ jsonField "sites_checked" (Text.decimal report.sitesChecked) ++
    Text.of ",\n  " ++ jsonField "insertions" (jsonList report.insertions) ++ Text.of "\n\x7d"

end Report

end Terminator
