import Mathlib
import Terminator.Proofs.LayerMerging

set_option autoImplicit false

namespace Terminator

namespace Settings

def ofValues (values : Field → Setting) : Result Settings := do
  let sites ← readSites (values .sites)
  let format ← readFormat (values .format)
  let showContext ← readBoolean "output.show_context" (values .showContext)
  .ok { sites, format, showContext }

theorem readProbe_table {origin : Option Text} {entries : List (Text × Setting)} {sites : Setting}
    (found : Setting.find? entries (Text.of "sites") = some sites) :
    readProbe (.table origin entries) = readSites sites := by
  simp only [readProbe, found, Option.mapM_some]
  cases readSites sites <;> rfl

theorem readOutput_table {origin : Option Text} {entries : List (Text × Setting)}
    {format showContext : Setting}
    (foundFormat : Setting.find? entries (Text.of "format") = some format)
    (foundContext : Setting.find? entries (Text.of "show_context") = some showContext) :
    readOutput (.table origin entries) = (do
      let format ← readFormat format
      let showContext ← readBoolean "output.show_context" showContext
      .ok (format, showContext)) := by
  simp only [readOutput, foundFormat, foundContext, Option.mapM_some]
  cases readFormat format <;> cases readBoolean "output.show_context" showContext <;> rfl

theorem ofSetting_eq_ofValues {root : Setting} {values : Field → Setting}
    (held : Layers.Holds root values) : ofSetting root = ofValues values := by
  obtain ⟨_, probe, foundProbe, sites⟩ := Setting.at?_eq_some_iff.mp (held .sites)
  obtain ⟨_, output, foundOutput, format⟩ := Setting.at?_eq_some_iff.mp (held .format)
  obtain ⟨_, _, sameOutput, showContext⟩ := Setting.at?_eq_some_iff.mp (held .showContext)
  cases foundOutput.symm.trans sameOutput
  simp only [Field.path] at foundProbe foundOutput
  simp only [ofSetting, ofValues, foundProbe, foundOutput, required, bind, Except.bind,
    readProbe_table sites, readOutput_table format showContext]
  cases readFormat (values .format) <;>
    cases readBoolean "output.show_context" (values .showContext) <;> rfl

end Settings

namespace Field

def Reads : Field → Setting → Settings → Prop
  | .sites, value, settings => Settings.readSites value = .ok settings.sites
  | .format, value, settings => Settings.readFormat value = .ok settings.format
  | .showContext, value, settings =>
    Settings.readBoolean "output.show_context" value = .ok settings.showContext

instance (field : Field) (value : Setting) (settings : Settings) :
    Decidable (field.Reads value settings) :=
  match field with
  | .sites | .format | .showContext => inferInstanceAs (Decidable (_ = _))

def Converts (field : Field) (value : Setting) : Prop :=
  ∃ settings, field.Reads value settings

def Agree : Field → Settings → Settings → Prop
  | .sites, left, right => left.sites = right.sites
  | .format, left, right => left.format = right.format
  | .showContext, left, right => left.showContext = right.showContext

theorem Reads.agree {field : Field} {value : Setting} {left right : Settings}
    (first : field.Reads value left) (second : field.Reads value right) :
    field.Agree left right := by
  cases field <;> exact Except.ok.inj (first.symm.trans second)

end Field

namespace Settings

theorem bind_eq_ok_iff {α β : Type} {first : Result α} {next : α → Result β} {value : β} :
    (do next (← first)) = .ok value ↔ ∃ middle, first = .ok middle ∧ next middle = .ok value := by
  cases first <;> simp [bind, Except.bind]

theorem ofValues_eq_ok_iff {values : Field → Setting} {settings : Settings} :
    ofValues values = .ok settings ↔ ∀ field : Field, field.Reads (values field) settings := by
  simp only [ofValues, bind_eq_ok_iff]
  constructor
  next =>
    rintro ⟨sites, _, format, _, showContext, _, made⟩ field
    cases made
    cases field <;> assumption
  next =>
    intro reads
    exact ⟨_, reads .sites, _, reads .format, _, reads .showContext, rfl⟩

theorem exists_ofValues_error_iff {values : Field → Setting} :
    (∃ problem, ofValues values = .error problem) ↔
      ∃ field : Field, ¬field.Converts (values field) := by
  constructor
  next =>
    rintro ⟨problem, failed⟩
    by_contra! converts
    obtain ⟨sites, readSites⟩ := converts .sites
    obtain ⟨format, readFormat⟩ := converts .format
    obtain ⟨context, readContext⟩ := converts .showContext
    have made : ofValues values = .ok ⟨sites.sites, format.format, context.showContext⟩ := by
      apply ofValues_eq_ok_iff.mpr
      intro field
      cases field <;> assumption
    cases failed.symm.trans made
  next =>
    rintro ⟨field, refused⟩
    cases made : ofValues values with
    | error problem => exact ⟨problem, rfl⟩
    | ok settings => exact absurd ⟨settings, ofValues_eq_ok_iff.mp made field⟩ refused

end Settings

inductive LayerCall where
  | project (directory : Text)
  | file (path : Text)
  | set (field : Field) (value : Scalar)
  deriving DecidableEq, Repr

namespace LayerCall

def file? : LayerCall → Option SettingsFile
  | .project directory => some (.project directory)
  | .file path => some (.named path)
  | .set _ _ => none

def override? : LayerCall → Option (Field × Scalar)
  | .set field value => some (field, value)
  | .project _ | .file _ => none

def overriding? (field : Field) (call : LayerCall) : Option Setting :=
  call.override?.bind fun (other, value) =>
    if other = field then some (.scalar none value) else none

def layered? (files : Files) (field : Field) (call : LayerCall) : Option Setting :=
  call.file?.bind (Layers.fileValue? files field)

theorem filterMap_overriding? (field : Field) (calls : List LayerCall) :
    calls.filterMap (overriding? field) = (calls.filterMap override?).filterMap fun entry =>
      if entry.1 = field then some (.scalar none entry.2) else none :=
  List.filterMap_filterMap.symm

theorem filterMap_layered? (files : Files) (field : Field) (calls : List LayerCall) :
    calls.filterMap (layered? files field) =
      (calls.filterMap file?).filterMap (Layers.fileValue? files field) :=
  List.filterMap_filterMap.symm

end LayerCall

namespace Layers

variable {files : Files} {calls : List LayerCall}

def told (layers : Layers) : LayerCall → Except SettingsError Layers
  | .project directory => .ok (layers.withProject directory)
  | .file path => .ok (layers.withFile path)
  | .set field value => layers.override field.key value

def settings (files : Files) (calls : List LayerCall) : Except SettingsError Settings := do
  (← calls.foldlM told empty).load files

def overridesOf (calls : List LayerCall) : List (Key × Scalar) :=
  (calls.filterMap LayerCall.override?).map fun entry => (entry.1.steps, entry.2)

theorem foldlM_told (layers : Layers) (calls : List LayerCall) :
    calls.foldlM told layers = .ok
      { files := layers.files ++ calls.filterMap LayerCall.file?
        overrides := layers.overrides ++ overridesOf calls } := by
  induction calls generalizing layers with
  | nil => simp [overridesOf, pure, Except.pure]
  | cons call rest ih =>
    rw [List.foldlM_cons]
    cases call with
    | project directory =>
      refine (ih (layers.withProject directory)).trans ?_
      simp [withProject, overridesOf, List.filterMap_cons, LayerCall.file?, LayerCall.override?]
    | file path =>
      refine (ih (layers.withFile path)).trans ?_
      simp [withFile, overridesOf, List.filterMap_cons, LayerCall.file?, LayerCall.override?]
    | set field value =>
      rw [told, override, Field.ofText?_key]
      refine (ih _).trans ?_
      simp [overridesOf, List.filterMap_cons, LayerCall.file?, LayerCall.override?]

/-- The value of a setting that counts: that of its last override, or else of the last file that
gives one, or else its default. -/
def winner (files : Files) (calls : List LayerCall) (field : Field) : Setting :=
  ((calls.filterMap (LayerCall.overriding? field)).getLast?.or
    (calls.filterMap (LayerCall.layered? files field)).getLast?).getD field.byDefault

def entries (files : Files) (calls : List LayerCall) : List FileEntry :=
  (calls.filterMap LayerCall.file?).flatMap (entriesOf files)

theorem holds_files (fits : ∀ file ∈ calls.filterMap LayerCall.file?, Fits files file)
    {reached : Setting} (ran : (entries files calls).foldlM addEntry defaults = .ok reached) :
    Holds reached fun field =>
      ((calls.filterMap (LayerCall.layered? files field)).getLast?).getD field.byDefault := by
  simpa only [LayerCall.filterMap_layered?] using holds_entries fits holds_defaults ran

theorem holds_overrides {root reached : Setting} {values : Field → Setting}
    (held : Holds root values)
    (ran : (overridesOf calls).foldlM addOverride root = .ok reached) :
    Holds reached fun field =>
      ((calls.filterMap (LayerCall.overriding? field)).getLast?).getD (values field) := by
  have added : ∀ entry ∈ calls.filterMap LayerCall.override?, ∀ root values next,
      Holds root values → addOverride root (entry.1.steps, entry.2) = .ok next →
        Holds next fun field =>
          (if entry.1 = field then some (.scalar none entry.2) else none).getD (values field) :=
    fun _ _ _ _ _ held stepped => holds_addOverride held stepped
  rw [overridesOf, List.foldlM_map] at ran
  simpa only [LayerCall.filterMap_overriding?] using holds_foldlM added held ran

theorem settings_eq_bind (fits : ∀ file ∈ calls.filterMap LayerCall.file?, Fits files file) :
    settings files calls =
      ((entries files calls).foldlM addEntry defaults).bind fun root =>
        ((overridesOf calls).foldlM addOverride root).bind Settings.ofSetting := by
  rw [entries, ← foldlM_addFile fits, settings, foldlM_told]
  simp only [load, merged, empty, List.nil_append]
  cases filed : (calls.filterMap LayerCall.file?).foldlM (addFile files) defaults <;>
    simp [filed, bind, Except.bind]

-- Overrides are out of reach of this problem, as their keys have no index.
theorem settings_eq_error (fits : ∀ file ∈ calls.filterMap LayerCall.file?, Fits files file)
    (outside : OutOfRange (entries files calls) defaults) :
    settings files calls = .error .indexOutOfRange := by
  rw [settings_eq_bind fits, foldlM_addEntry_eq_error_iff.mpr ⟨rfl, outside⟩]
  rfl

theorem settings_eq_ofValues (fits : ∀ file ∈ calls.filterMap LayerCall.file?, Fits files file)
    (inside : ¬OutOfRange (entries files calls) defaults) :
    settings files calls = Settings.ofValues (winner files calls) := by
  rw [settings_eq_bind fits]
  cases filed : (entries files calls).foldlM addEntry defaults with
  | error problem => exact absurd (foldlM_addEntry_eq_error_iff.mp filed).2 inside
  | ok root =>
    obtain ⟨reached, overridden⟩ :
        ∃ reached, (overridesOf calls).foldlM addOverride root = .ok reached :=
      exists_foldlM_addOverride _ root
    have held := holds_overrides (holds_files fits filed) overridden
    have values : winner files calls = fun field =>
        ((calls.filterMap (LayerCall.overriding? field)).getLast?).getD
          (((calls.filterMap (LayerCall.layered? files field)).getLast?).getD
            field.byDefault) := by
      funext field
      rw [winner, Option.getD_or]
    rw [values]
    simp only [Except.bind, overridden]
    exact Settings.ofSetting_eq_ofValues held

theorem settings_eq_ok_iff (fits : ∀ file ∈ calls.filterMap LayerCall.file?, Fits files file)
    (result : Settings) :
    settings files calls = .ok result ↔
      ¬OutOfRange (entries files calls) defaults ∧
        ∀ field : Field, field.Reads (winner files calls field) result := by
  by_cases outside : OutOfRange (entries files calls) defaults
  next => simp [settings_eq_error fits outside, outside]
  next => simp [settings_eq_ofValues fits outside, outside, Settings.ofValues_eq_ok_iff]

theorem winner_of_not_given {before after : List LayerCall} {call : LayerCall} {field : Field}
    (notOverridden : call.overriding? field = none)
    (notLayered : call.layered? files field = none) :
    winner files (before ++ call :: after) field = winner files (before ++ after) field := by
  simp only [winner, List.filterMap_append, List.filterMap_cons_none notOverridden,
    List.filterMap_cons_none notLayered]

theorem fits_of_document {file : SettingsFile} {found text : Text}
    {document : List (Text × Toml)} (located : locate files (path file) = .ok (found, text))
    (read : Toml.ofDocument? text = some document) (regular : RegularDocument document) :
    Fits files file where
  wellFormed := by
    intro other content same
    cases located.symm.trans same
    exact ⟨document, read, regular⟩
  present := by
    rintro written rfl
    exact ⟨found, text, located⟩

def sampleProject : String := "[output]\nformat = \"xml\"\nshow_context = \"on\""

def sampleFile : String := "Output.Format = \"json\"\n\"probe.sites\" = \"all\""

def sampleFiles : Files :=
  (FileTree.ofList [(Text.of "asi.toml", .bytes sampleProject.toUTF8),
    (Text.of "own.toml", .bytes sampleFile.toUTF8)]).files

def sampleCalls : List LayerCall :=
  [.set .sites (.string (Text.of "line-end")), .project ['.'], .file (Text.of "own.toml")]

def ownFiles (text : String) : Files :=
  (FileTree.ofList [(Text.of "own.toml", .bytes text.toUTF8)]).files

def ownCalls : List LayerCall :=
  [.file (Text.of "own.toml")]

def countedBack : String := "\"a[-1]\" = 1"

def indexedProbe : String := "\"probe[0]\" = \"line-end\""

end Layers

end Terminator
