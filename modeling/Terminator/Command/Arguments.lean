import Terminator.Text

set_option autoImplicit false

namespace Terminator.Command

structure ProbeArguments where
  path : Text
  format : Option Text
  sites : Option Text
  context : Bool
  config : Option Text
  ranges : List Text
  deriving DecidableEq, Repr

inductive Invocation where
  | version
  | listFormats (verbose : Bool)
  | probe (verbose : Bool) (arguments : ProbeArguments)
  deriving DecidableEq, Repr

inductive ValueOption where
  | format
  | sites
  | config
  | range
  deriving DecidableEq, Repr

inductive FlagOption where
  | context
  | verbose
  deriving DecidableEq, Repr

def longValueOption? (name : Text) : Option ValueOption :=
  if name = Text.of "format" then some .format
  else if name = Text.of "sites" then some .sites
  else if name = Text.of "config" then some .config
  else if name = Text.of "range" then some .range
  else none

def longFlag? (name : Text) : Option FlagOption :=
  if name = Text.of "context" then some .context
  else if name = Text.of "verbose" then some .verbose
  else none

def shortValueOption? : Char → Option ValueOption
  | 'f' => some .format
  | 'c' => some .config
  | 'r' => some .range
  | _ => none

structure Partial where
  path : Option Text
  format : Option Text
  sites : Option Text
  config : Option Text
  ranges : List Text
  context : Bool
  verbose : Bool
  deriving DecidableEq, Repr

namespace Partial

def empty : Partial where
  path := none
  format := none
  sites := none
  config := none
  ranges := []
  context := false
  verbose := false

def give (read : Partial) (value : Text) : ValueOption → Option Partial
  | .format => if read.format.isSome then none else some { read with format := some value }
  | .sites => if read.sites.isSome then none else some { read with sites := some value }
  | .config => if read.config.isSome then none else some { read with config := some value }
  | .range => some { read with ranges := read.ranges ++ [value] }

def raise (read : Partial) : FlagOption → Option Partial
  | .context => if read.context then none else some { read with context := true }
  | .verbose => if read.verbose then none else some { read with verbose := true }

def position (read : Partial) (value : Text) : Option Partial :=
  if read.path.isSome then none else some { read with path := some value }

end Partial

def looksLikeOption : Text → Bool
  | '-' :: _ :: _ => true
  | _ => false

def splitValue (written : Text) : Text × Option Text :=
  match written.dropWhile (· != '=') with
  | [] => (written, none)
  | _ :: value => (written.takeWhile (· != '='), some value)

def readLetters (read : Partial) : Text → Option (Partial × Option ValueOption)
  | [] => some (read, none)
  | 'v' :: rest => do readLetters (← read.raise .verbose) rest
  | letter :: rest =>
    match shortValueOption? letter, rest with
    | none, _ => none
    | some option, [] => some (read, some option)
    | some option, '=' :: value => (read.give value option).map (·, none)
    | some option, value => (read.give value option).map (·, none)

def readLong (read : Partial) (written : Text) : Option (Partial × Option ValueOption) :=
  let (name, value) := splitValue written
  match longValueOption? name, longFlag? name, value with
  | some option, _, none => some (read, some option)
  | some option, _, some value => (read.give value option).map (·, none)
  | none, some flag, none => (read.raise flag).map (·, none)
  | none, some _, some _ => none
  | none, none, _ => none

def readProbe (waiting : Option ValueOption) (read : Partial) : List Text → Option Partial
  | [] => if waiting.isSome then none else some read
  | argument :: rest =>
    match waiting, looksLikeOption argument with
    | some option, false => do readProbe none (← read.give argument option) rest
    | some _, true => none
    | none, false => do readProbe none (← read.position argument) rest
    | none, true =>
      match argument with
      | ['-', '-'] => rest.foldlM Partial.position read
      | '-' :: '-' :: written => do
        let (read, waiting) ← readLong read written
        readProbe waiting read rest
      | _ => do
        let (read, waiting) ← readLetters read argument.tail
        readProbe waiting read rest

def readListFormats (read : Partial) : List Text → Option Partial
  | [] => some read
  | argument :: rest =>
    if argument = ['-', '-'] then if rest.isEmpty then some read else none
    else if argument = Text.of "--verbose" || argument = ['-', 'v'] then do
      readListFormats (← read.raise .verbose) rest
    else none

def finish (verbose : Bool) (read : Partial) : Option Invocation :=
  read.path.map fun path => .probe (verbose || read.verbose)
    { path, format := read.format, sites := read.sites, context := read.context
      config := read.config, ranges := read.ranges }

def readTopLetters (verbose : Bool) : Text → Option (Bool ⊕ Invocation)
  | [] => some (.inl verbose)
  | 'v' :: rest => if verbose then none else readTopLetters true rest
  | 'V' :: _ => some (.inr .version)
  | _ => none

def readTop (verbose : Bool) : List Text → Option Invocation
  | [] => none
  | argument :: rest =>
    if argument = Text.of "probe" then (readProbe none .empty rest).bind (finish verbose)
    else if argument = Text.of "list-formats" then
      (readListFormats .empty rest).map fun read => .listFormats (verbose || read.verbose)
    else if argument = Text.of "--version" then some .version
    else if argument = Text.of "--verbose" then if verbose then none else readTop true rest
    else match argument with
      | '-' :: letter :: letters =>
        match readTopLetters verbose (letter :: letters) with
        | some (.inl verbose) => readTop verbose rest
        | some (.inr invocation) => some invocation
        | none => none
      | _ => none

def Invocation.ofArguments? (arguments : List Text) : Option Invocation :=
  readTop false arguments

end Terminator.Command
