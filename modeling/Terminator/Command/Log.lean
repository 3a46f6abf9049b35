import Terminator.Survey
import Terminator.Text.Decimal
import Terminator.Text.Lowercase

set_option autoImplicit false

namespace Terminator.Command

inductive LogLevel where
  | error
  | warn
  | info
  | debug
  | trace
  deriving DecidableEq, Repr

namespace LogLevel

def all : List LogLevel := [.error, .warn, .info, .debug, .trace]

def name : LogLevel → String
  | .error => "error"
  | .warn => "warn"
  | .info => "info"
  | .debug => "debug"
  | .trace => "trace"

def label : LogLevel → Text
  | .error => Text.of "ERROR"
  | .warn => Text.of "WARN "
  | .info => Text.of "INFO "
  | .debug => Text.of "DEBUG"
  | .trace => Text.of "TRACE"

def rank : LogLevel → Nat
  | .error => 1
  | .warn => 2
  | .info => 3
  | .debug => 4
  | .trace => 5

def rank? (word : Text) : Option Nat :=
  let word := Text.lowercase word
  if word = Text.of "off" then some 0
  else (all.find? fun level => Text.of level.name = word).map rank

end LogLevel

structure LogEntry where
  level : LogLevel
  source : String
  message : Text
  deriving DecidableEq, Repr

namespace LogEntry

def indented (message : Text) : Text :=
  message.flatMap fun c => if c = '\n' then ['\n', ' ', ' ', ' ', ' '] else [c]

def line (entry : LogEntry) : Text :=
  ['['] ++ entry.level.label ++ [' '] ++ Text.of entry.source ++ [']', ' '] ++
    indented entry.message ++ ['\n']

def started (source : Text) (tokens : Nat) (sites : SiteMode) : LogEntry where
  level := .debug
  source := "asi_scanner::asi::probe"
  message := Text.of "probing " ++ Text.decimal tokens ++ Text.of " tokens in " ++
    Text.decimal source.byteLength ++ Text.of " bytes (" ++ Text.of sites.name ++ Text.of " sites)"

def evaluated (verdict : Verdict) : LogEntry where
  level := .trace
  source := "asi_scanner::asi::decider"
  message := Text.of "automatic semicolon: " ++ Text.of verdict.decision.variant ++ Text.of " (" ++
    Text.of verdict.reason.describe ++ [')']

def inserted (insertion : Insertion) : LogEntry where
  level := .debug
  source := "asi_scanner::asi::probe"
  message := Text.of "insertion at " ++ Text.decimal insertion.place.line ++ [':'] ++
    Text.decimal insertion.place.column ++ Text.of " (" ++ Text.of insertion.reason.describe ++
    [')']

def finished (path : Text) (sites insertions : Nat) : LogEntry where
  level := .info
  source := "asi"
  message := path ++ Text.of ": " ++ Text.decimal sites ++ Text.of " sites checked, " ++
    Text.decimal insertions ++ Text.of " insertions"

def ofVisit (visit : Visit) : List LogEntry :=
  let asked := if visit.verdict.reason = .notAccepted then [] else [evaluated visit.verdict]
  asked ++ (visit.insertion.map inserted).toList

end LogEntry

end Terminator.Command
