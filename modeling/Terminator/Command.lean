import Terminator.Command.Arguments
import Terminator.Command.Filter
import Terminator.Report
import Terminator.Settings.Layers
import Terminator.Span

set_option autoImplicit false

namespace Terminator.Command

structure Environment where
  files : Files
  input : FileContent
  logFilter : Option Text

structure Outcome where
  exitCode : Nat
  output : Text
  errors : Text
  deriving DecidableEq, Repr

inductive Failure where
  | settings (problem : SettingsError)
  | unreadable (path : Text) (problem : String)
  | badRange (written : Text)
  deriving DecidableEq, Repr

namespace Failure

def message : Failure → Text
  | .settings problem => Text.of "configuration error: " ++ problem.message
  | .unreadable path problem =>
    Text.of "failed to read " ++ path ++ Text.of ": " ++ Text.of problem
  | .badRange written => Span.refusal written

-- What is wrong with a malformed file is told by its reader, down to its own line breaks.
def report : Failure → Text
  | .settings .malformedFile => Text.of "Error: configuration error: TOML parse error"
  | failure => Text.of "Error: " ++ failure.message ++ ['\n']

end Failure

def version : Text := Text.of "asi 0.1.0\n"

def formatList : Text :=
  Text.of "Available output formats:\n\n" ++
    Text.of "  text\n    One `line:column reason` entry per insertion.\n" ++
    Text.of "  json\n    The full probe report as JSON.\n"

def layers (arguments : ProbeArguments) : Except SettingsError Layers := do
  let base := Layers.empty.withProject ['.']
  let base := match arguments.config with
    | some path => base.withFile path
    | none => base
  let withFormat ← match arguments.format with
    | some format => base.override (Text.of "output.format") (.string format)
    | none => .ok base
  let withSites ← match arguments.sites with
    | some sites => withFormat.override (Text.of "probe.sites") (.string sites)
    | none => .ok withFormat
  if arguments.context then withSites.override (Text.of "output.show_context") (.boolean true)
  else .ok withSites

def readSource (environment : Environment) (path : Text) : Except Failure Text :=
  let content := if path = ['-'] then environment.input else environment.files path
  content.text.mapError (.unreadable path)

def readRange (written : Text) : Except Failure Span :=
  match Span.ofText? written with
  | some span => .ok span
  | none => .error (.badRange written)

def readScope (arguments : ProbeArguments) : Except Failure (Option (List Span)) :=
  if arguments.ranges.isEmpty then .ok none
  else (arguments.ranges.mapM readRange).map some

def present (settings : Settings) (source : Text) (report : Report) : Text :=
  match settings.format with
  | .json => report.toJson ++ ['\n']
  | .text =>
    match report.render source settings.showContext with
    | .ok text => text
    | .error _ => []

def survey (environment : Environment) (arguments : ProbeArguments) :
    Except Failure (Text × List LogEntry) := do
  let settings ← ((layers arguments).bind (·.load environment.files)).mapError .settings
  let source ← readSource environment arguments.path
  let scope ← readScope arguments
  let visits := Survey.visits source settings.sites scope
  let report := Report.ofVisits visits
  let entries :=
    [LogEntry.started source (Lexeme.ofText source).length settings.sites] ++
      visits.flatMap LogEntry.ofVisit ++
      [LogEntry.finished arguments.path report.sitesChecked report.insertions.length]
  .ok (present settings source report, entries)

def logFilter (environment : Environment) (verbose : Bool) : LogFilter :=
  match environment.logFilter with
  | some written => .ofText written
  | none => .ofLevel (if verbose then .debug else .warn)

def run (environment : Environment) : Invocation → Outcome
  | .version => { exitCode := 0, output := version, errors := [] }
  | .listFormats verbose =>
    { exitCode := 0, output := formatList, errors := (logFilter environment verbose).warnings }
  | .probe verbose arguments =>
    let filter := logFilter environment verbose
    match survey environment arguments with
    | .ok (output, entries) =>
      { exitCode := 0, output, errors := filter.warnings ++ filter.render entries }
    | .error failure =>
      { exitCode := 1, output := [], errors := filter.warnings ++ failure.report }

def usageExitCode : Nat := 2

def Invocation.paths : Invocation → List Text
  | .version | .listFormats _ => []
  | .probe _ arguments =>
    Layers.candidates (Layers.path (.project ['.'])) ++
      arguments.config.toList.flatMap Layers.candidates ++ [arguments.path]

end Terminator.Command
