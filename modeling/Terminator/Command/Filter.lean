import Terminator.Command.Log

set_option autoImplicit false

namespace Terminator.Command

structure LogRule where
  name : Text
  rank : Nat
  deriving DecidableEq, Repr

namespace LogRule

def general (rank : Nat) : LogRule :=
  { name := [], rank }

def ofText (written : Text) : Except Text LogRule :=
  match Text.parts '=' written with
  | [word] =>
    match LogLevel.rank? word with
    | some rank => .ok (general rank)
    | none => .ok { name := word, rank := LogLevel.trace.rank }
  | [name, level] =>
    let level := Text.trim level
    if level.isEmpty then .ok { name, rank := LogLevel.trace.rank }
    else
      match LogLevel.rank? level with
      | some rank => .ok { name, rank }
      | none => .error level
  | _ => .error written

def governs (rule : LogRule) (entry : LogEntry) : Bool :=
  rule.name.isPrefixOf (Text.of entry.source)

def stronger (first second : LogRule) : LogRule :=
  if second.name.byteLength < first.name.byteLength then first else second

end LogRule

/-- What is shown of a log. Of the rules that govern an entry the one with the longest name decides,
and of several such the last one. -/
structure LogFilter where
  rules : List LogRule
  refused : List Text
  deriving DecidableEq, Repr

namespace LogFilter

def ofLevel (level : LogLevel) : LogFilter where
  rules := [.general level.rank]
  refused := []

-- A filter without rules shows errors.
def ofText (written : Text) : LogFilter :=
  let parts := ((Text.parts ',' written).map Text.trim).filter fun part => !part.isEmpty
  let read := parts.map LogRule.ofText
  let rules := read.filterMap Except.toOption
  { rules := if rules.isEmpty then [.general LogLevel.error.rank] else rules
    refused := read.filterMap fun
      | .ok _ => none
      | .error part => some part }

def shows (filter : LogFilter) (entry : LogEntry) : Bool :=
  match filter.rules.filter (·.governs entry) with
  | [] => false
  | rule :: others => entry.level.rank ≤ (others.foldl LogRule.stronger rule).rank

def warning (part : Text) : Text :=
  Text.of "warning: invalid logging spec '" ++ part ++ Text.of "', ignoring it\n"

def warnings (filter : LogFilter) : Text :=
  filter.refused.flatMap warning

def render (filter : LogFilter) (entries : List LogEntry) : Text :=
  (entries.filter filter.shows).flatMap LogEntry.line

end LogFilter

end Terminator.Command
