import Terminator.Files
import Terminator.Setting.Key
import Terminator.Settings
import Terminator.Toml.Document

set_option autoImplicit false

namespace Terminator

inductive SettingsFile where
  | project (directory : Text)
  | named (path : Text)
  deriving DecidableEq, Repr

structure Layers where
  files : List SettingsFile
  overrides : List (Key × Scalar)
  deriving DecidableEq, Repr

namespace Layers

def defaults : Setting :=
  .table none
    [(Text.of "probe", .table none
        [(Text.of "sites", .scalar none (.string (Text.of "token-end")))]),
      (Text.of "output", .table none
        [(Text.of "format", .scalar none (.string (Text.of "text"))),
          (Text.of "show_context", .scalar none (.boolean false))])]

def projectFile : Text := Text.of "asi.toml"

def extension : Text := Text.of ".toml"

def empty : Layers :=
  { files := [], overrides := [] }

def withProject (layers : Layers) (directory : Text) : Layers :=
  { layers with files := layers.files ++ [.project directory] }

def withFile (layers : Layers) (path : Text) : Layers :=
  { layers with files := layers.files ++ [.named path] }

def override (layers : Layers) (key : Text) (value : Scalar) : Except SettingsError Layers :=
  match Key.ofText? key with
  | none => .error .malformedKey
  | some key => .ok { layers with overrides := layers.overrides ++ [(key, value)] }

def join (directory name : Text) : Text :=
  match directory.getLast? with
  | none => name
  | some '/' => directory ++ name
  | some _ => directory ++ ['/'] ++ name

def path : SettingsFile → Text
  | .project directory => join directory projectFile
  | .named path => path

def extended? (path : Text) : Option Text :=
  let parts := (pathParts path).reverse.dropWhile isStandStill
  match parts with
  | [] => none
  | last :: before =>
    if isStepUp last then none
    else some (['/'].intercalate (before.reverse ++ [last ++ extension]))

def candidates (path : Text) : List Text :=
  path :: (extended? path).toList

def shown (path : Text) : Text :=
  match path with
  | '/' :: _ => path
  | _ => ['/'].intercalate ((pathParts path).filter fun part => !isStandStill part)

def firstFile? (files : Files) : List Text → Option (Text × FileContent)
  | [] => none
  | path :: rest =>
    match files path with
    | .bytes content => some (path, .bytes content)
    | _ => firstFile? files rest

def locate (files : Files) (path : Text) : Except SettingsError (Text × Text) :=
  match firstFile? files (candidates path) with
  | none => .error (.fileNotFound path)
  | some (found, content) =>
    match content.text with
    | .ok text => .ok (found, text)
    | .error problem => .error (.fileUnreadable problem)

def assign (root : Setting) (key : Key) (value : Setting) : Except SettingsError Setting :=
  match key.set? value root with
  | some root => .ok root
  | none => .error .indexOutOfRange

-- The keys at the top of a file may be keys with dots even in quotes. One that is malformed is a
-- plain name.
def topKey (written : Text) : Key :=
  (Key.ofText? written).getD [.member written]

def addText (root : Setting) (origin text : Text) : Except SettingsError Setting :=
  match Toml.ofDocument? text with
  | none => .error .malformedFile
  | some entries =>
    (Setting.ofEntries (some origin) entries).foldlM
      (fun root (written, value) => assign root (topKey written) value) root

-- A project file that cannot be read is passed over, but one that can has to be well formed.
def addFile (files : Files) (root : Setting) (file : SettingsFile) :
    Except SettingsError Setting :=
  match file, locate files (path file) with
  | _, .ok (found, text) => addText root (shown found) text
  | .project _, .error _ => .ok root
  | .named _, .error problem => .error problem

def addOverride (root : Setting) (entry : Key × Scalar) : Except SettingsError Setting :=
  assign root entry.1 (.scalar none entry.2)

def merged (layers : Layers) (files : Files) : Except SettingsError Setting := do
  let root ← layers.files.foldlM (addFile files) defaults
  layers.overrides.foldlM addOverride root

def load (layers : Layers) (files : Files) : Except SettingsError Settings := do
  Settings.ofSetting (← layers.merged files)

end Layers

end Terminator
