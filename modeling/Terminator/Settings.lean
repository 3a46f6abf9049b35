import Terminator.Setting
import Terminator.Survey

set_option autoImplicit false

namespace Terminator

inductive OutputFormat where
  | text
  | json
  deriving DecidableEq, Repr

namespace OutputFormat

def all : List OutputFormat := [.text, .json]

def name : OutputFormat → String
  | .text => "text"
  | .json => "json"

end OutputFormat

structure Settings where
  sites : SiteMode
  format : OutputFormat
  showContext : Bool
  deriving DecidableEq, Repr

inductive SettingsError where
  | malformedKey
  | malformedFile
  | fileNotFound (path : Text)
  | fileUnreadable (problem : String)
  | indexOutOfRange
  | notBoolean (found : Text) (key : String) (origin : Option Text)
  | unknownChoice (choices : String) (written : Text)
  | notChoice (choices : String)
  | notSection (found : Text) (title : String)
  | shortSection (length : Nat) (title : String) (size : String)
  | missingField (name : String)
  deriving DecidableEq, Repr

namespace SettingsError

def message : SettingsError → Text
  | .malformedKey => Text.of "malformed key"
  | .malformedFile => Text.of "TOML parse error"
  | .fileNotFound path => Text.of "configuration file \"" ++ path ++ Text.of "\" not found"
  | .fileUnreadable problem => Text.of problem
  | .indexOutOfRange => Text.of "index out of range"
  | .notBoolean found key origin =>
    Text.of "invalid type: " ++ found ++ Text.of ", expected a boolean for key `" ++ Text.of key ++
      ['\x60'] ++
      (match origin with
        | some path => Text.of " in " ++ path
        | none => [])
  | .unknownChoice choices written =>
    Text.of "enum " ++ Text.of choices ++ Text.of " does not have variant constructor " ++ written
  | .notChoice choices =>
    Text.of "value of enum " ++ Text.of choices ++
      Text.of " should be represented by either string or table with exactly one key"
  | .notSection found title =>
    Text.of "invalid type: " ++ found ++ Text.of ", expected struct " ++ Text.of title
  | .shortSection length title size =>
    Text.of "invalid length " ++ Text.decimal length ++ Text.of ", expected struct " ++
      Text.of title ++ Text.of " with " ++ Text.of size
  | .missingField name => Text.of "missing field `" ++ Text.of name ++ ['\x60']

end SettingsError

namespace Settings

abbrev Result (α : Type) := Except SettingsError α

def describeString (value : Text) : Text :=
  Text.of "string " ++ Text.quoted value

def integerText : Int → Text
  | .ofNat value => Text.decimal value
  | .negSucc value => '-' :: Text.decimal (value + 1)

def inBackquotes (kind : String) (shown : Text) : Text :=
  Text.of kind ++ [' ', '\x60'] ++ shown ++ ['\x60']

def describe : Scalar → Text
  | .null => Text.of "unit value"
  | .boolean value => inBackquotes "boolean" (if value then Text.of "true" else Text.of "false")
  | .integer value => inBackquotes "integer" (integerText value)
  | .float value => inBackquotes "floating point" value.toText
  | .string value => describeString value

def yesWords : List String := ["1", "true", "on", "yes"]

def noWords : List String := ["0", "false", "off", "no"]

-- A message about a word shows it in small letters, the form in which it was looked up.
def readBoolean (key : String) (setting : Setting) : Result Bool :=
  let refuse (found : Text) : Result Bool := .error (.notBoolean found key setting.origin)
  match setting with
  | .scalar _ (.boolean value) => .ok value
  | .scalar _ (.integer value) => .ok (value != 0)
  | .scalar _ (.float value) => .ok (!value.isZero)
  | .scalar _ (.string value) =>
    let word := Text.lowercase value
    if yesWords.contains (String.ofList word) then .ok true
    else if noWords.contains (String.ofList word) then .ok false
    else refuse (describeString word)
  | .scalar _ .null => refuse (Text.of "unit value")
  | .array _ _ => refuse (Text.of "sequence")
  | .table _ _ => refuse (Text.of "map")

def choose {α : Type} (choices : String) (all : List α) (name : α → String) (written : Text) :
    Result α :=
  match all.find? fun choice => Text.of (name choice) = Text.lowercase written with
  | some choice => .ok choice
  | none => .error (.unknownChoice choices written)

def readChoice {α : Type} (choices : String) (all : List α) (name : α → String) :
    Setting → Result α
  | .scalar _ (.string written) => choose choices all name written
  | .table _ [(written, _)] => choose choices all name written
  | .scalar _ _ | .array _ _ | .table _ _ => .error (.notChoice choices)

def readSites : Setting → Result SiteMode :=
  readChoice "SiteMode" SiteMode.all SiteMode.name

def readFormat : Setting → Result OutputFormat :=
  readChoice "OutputFormat" OutputFormat.all OutputFormat.name

def required {α : Type} (name : String) : Option α → Result α
  | some value => .ok value
  | none => .error (.missingField name)

def readProbe : Setting → Result SiteMode
  | .table _ entries => do
    let sites ← (Setting.find? entries (Text.of "sites")).mapM readSites
    required "sites" sites
  | .array _ (sites :: _) => readSites sites
  | .array _ [] => .error (.shortSection 0 "ProbeConfig" "1 element")
  | .scalar _ value => .error (.notSection (describe value) "ProbeConfig")

-- A field that is wrong is reported before one that is missing.
def readOutput : Setting → Result (OutputFormat × Bool)
  | .table _ entries => do
    let format ← (Setting.find? entries (Text.of "format")).mapM readFormat
    let showContext ←
      (Setting.find? entries (Text.of "show_context")).mapM (readBoolean "output.show_context")
    let format ← required "format" format
    let showContext ← required "show_context" showContext
    .ok (format, showContext)
  | .array _ (format :: showContext :: _) => do
    let format ← readFormat format
    let showContext ← readBoolean "output[1]" showContext
    .ok (format, showContext)
  | .array _ [format] => do
    let _ ← readFormat format
    .error (.shortSection 1 "OutputConfig" "2 elements")
  | .array _ [] => .error (.shortSection 0 "OutputConfig" "2 elements")
  | .scalar _ value => .error (.notSection (describe value) "OutputConfig")

def ofSetting (root : Setting) : Result Settings := do
  let (_, entries) := root.asTable
  let sites ← readProbe (← required "probe" (Setting.find? entries (Text.of "probe")))
  let (format, showContext) ←
    readOutput (← required "output" (Setting.find? entries (Text.of "output")))
  .ok { sites, format, showContext }

end Settings

end Terminator
