import Terminator.Scanner
import Terminator.Lexeme.Piece

set_option autoImplicit false

namespace Terminator

/-- Which tokens are followed by a site, that is, by a question for a semicolon. -/
inductive SiteMode where
  | tokenEnd
  | lineEnd
  deriving DecidableEq, Repr

namespace SiteMode

def all : List SiteMode := [.tokenEnd, .lineEnd]

def name : SiteMode → String
  | .tokenEnd => "token-end"
  | .lineEnd => "line-end"

def ofName? (name : String) : Option SiteMode :=
  all.find? (·.name = name)

end SiteMode

structure Insertion where
  offset : Nat
  place : Place
  reason : Reason
  deriving DecidableEq, Repr

structure Visit where
  offset : Nat
  verdict : Verdict
  insertion : Option Insertion
  deriving DecidableEq, Repr

structure Survey where
  source : Text
  sites : SiteMode
  reader : SourceReader
  statementCanEnd : Bool
  lastInsertion : Option Nat
  deriving DecidableEq, Repr

namespace Survey

def start (source : Text) (sites : SiteMode) (scope : Option (List Span)) : Survey where
  source := source
  sites := sites
  reader := SourceReader.ofScope source scope
  statementCanEnd := false
  lastInsertion := none

-- A token at the very end of a span is visible: the boundary is seen from there.
def sees (survey : Survey) (offset : Nat) : Bool :=
  !survey.reader.isConfined ||
    survey.reader.spans.any fun span => span.start < offset && offset ≤ span.stop

def restOfLineIsBlank (source : Text) (offset : Nat) : Bool :=
  (Text.firstLine (source.dropBytes offset)).all Text.isBlank

def accepted (survey : Survey) : TokenSet :=
  if survey.statementCanEnd then .singleton .automaticSemicolon else .empty

-- Only the last insertion is compared, since the sites come in the order of the source.
def ask (survey : Survey) (offset : Nat) : Visit × Survey :=
  let (verdict, reader) := (survey.reader.seek offset).evaluate survey.accepted
  let survey := { survey with reader }
  let goal := reader.marked.getD offset
  if verdict.isInsert && survey.lastInsertion != some goal then
    let insertion : Insertion :=
      { offset := goal, place := survey.source.place goal, reason := verdict.reason }
    ({ offset, verdict, insertion := some insertion }, { survey with lastInsertion := some goal })
  else
    ({ offset, verdict, insertion := none }, survey)

def observe (survey : Survey) (lexeme : Lexeme) : Survey :=
  if lexeme.isComment then survey
  else { survey with statementCanEnd := lexeme.canEndStatement }

def hasSite (survey : Survey) (offset : Nat) : Bool :=
  match survey.sites with
  | .tokenEnd => true
  | .lineEnd => restOfLineIsBlank survey.source offset

def walk : Survey → List Lexeme → List Visit
  | _, [] => []
  | survey, lexeme :: rest =>
    if lexeme.isTrivia || !survey.sees lexeme.stop then
      walk survey rest
    else
      let survey := survey.observe lexeme
      if survey.hasSite lexeme.stop then
        let (visit, survey) := survey.ask lexeme.stop
        visit :: walk survey rest
      else
        walk survey rest

def visits (source : Text) (sites : SiteMode) (scope : Option (List Span)) : List Visit :=
  (start source sites scope).walk (Lexeme.ofText source)

end Survey

end Terminator
