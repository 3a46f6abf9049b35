import Mathlib.Data.List.Basic
import Terminator.Proofs.SettingMembers
import Terminator.Settings.Layers

set_option autoImplicit false

namespace Terminator

inductive Field where
  | sites
  | format
  | showContext
  deriving DecidableEq, Repr

namespace Field

def path : Field → Text × Text
  | .sites => (Text.of "probe", Text.of "sites")
  | .format => (Text.of "output", Text.of "format")
  | .showContext => (Text.of "output", Text.of "show_context")

def byDefault : Field → Setting
  | .sites => .scalar none (.string (Text.of "token-end"))
  | .format => .scalar none (.string (Text.of "text"))
  | .showContext => .scalar none (.boolean false)

theorem lowercase_path (field : Field) :
    Text.lowercase field.path.1 = field.path.1 ∧ Text.lowercase field.path.2 = field.path.2 := by
  cases field <;> decide +kernel

theorem path_injective : Function.Injective path := by
  intro left right same
  cases left <;> cases right <;> first | rfl | exact absurd same (by decide +kernel)

def key (field : Field) : Text :=
  field.path.1 ++ ['.'] ++ field.path.2

def steps (field : Field) : Key :=
  [.member field.path.1, .member field.path.2]

theorem ofText?_key (field : Field) : Key.ofText? field.key = some field.steps := by
  cases field <;> decide +kernel

end Field

namespace Layers

/-- The members that an entry at the top of a document gives to tables, under the names of table and
member in small letters. The name of the entry may be the key of a member itself. -/
def membersOf (entry : Text × Toml) : List ((Text × Text) × Toml) :=
  match topKey entry.1, entry.2 with
  | [.member table], .table members =>
    members.map fun member => ((Text.lowercase table, Text.lowercase member.1), member.2)
  | [.member table, .member name], value =>
    [((Text.lowercase table, Text.lowercase name), value)]
  | _, _ => []

def givenBy (path : Text × Text) (entry : Text × Toml) : List Toml :=
  (membersOf entry).filterMap fun member => if member.1 = path then some member.2 else none

def given (path : Text × Text) (document : List (Text × Toml)) : List Toml :=
  document.flatMap (givenBy path)

/-- An entry is a table of scalars or a scalar, or its key leads past all settings. -/
inductive Regular (entry : Text × Toml) : Prop
  | table (name : Text) (members : List (Text × Toml)) :
      topKey entry.1 = [.member name] → entry.2 = .table members →
        (∀ member ∈ members, member.2.isScalar = true) → Regular entry
  | member (table name : Text) :
      topKey entry.1 = [.member table, .member name] → entry.2.isScalar = true → Regular entry
  | apart : (∀ field : Field, Key.Apart field.path (topKey entry.1)) → Regular entry

def Holds (root : Setting) (values : Field → Setting) : Prop :=
  ∀ field : Field, root.at? field.path = some (values field)

theorem holds_defaults : Holds defaults Field.byDefault := by
  intro field
  cases field <;>
    simp [defaults, Setting.at?, Setting.asTable, Setting.find?, Field.path, Field.byDefault,
      Text.of]

theorem getD_getLast?_filterMap_cons {α β : Type} (value? : α → Option β) (item : α)
    (rest : List α) (base : β) :
    ((item :: rest).filterMap value?).getLast?.getD base =
      (rest.filterMap value?).getLast?.getD ((value? item).getD base) := by
  cases here : value? item with
  | none => rw [List.filterMap_cons_none here, Option.getD_none]
  | some value =>
    rw [List.filterMap_cons_some here, List.getLast?_cons, Option.getD_some, Option.getD_some]

-- Of several layers that give a setting the last one counts, as each replaces what it gives.
theorem holds_foldlM {α : Type} {step : Setting → α → Except SettingsError Setting}
    {update : α → Field → Option Setting} {items : List α}
    (steps : ∀ item ∈ items, ∀ root values next, Holds root values →
      step root item = .ok next →
        Holds next fun field => (update item field).getD (values field))
    {root reached : Setting} {values : Field → Setting} (held : Holds root values)
    (ran : items.foldlM step root = .ok reached) :
    Holds reached fun field =>
      ((items.filterMap fun item => update item field).getLast?).getD (values field) := by
  induction items generalizing root values with
  | nil =>
    cases ran
    exact held
  | cons item rest ih =>
    obtain ⟨first, others⟩ := List.forall_mem_cons.mp steps
    rw [List.foldlM_cons] at ran
    cases stepped : step root item with
    | error problem => simp [stepped, bind, Except.bind] at ran
    | ok next =>
      simp only [stepped, bind, Except.bind] at ran
      have afterFirst := first root values next held stepped
      simpa only [getD_getLast?_filterMap_cons] using ih others afterFirst ran

variable {origin : Option Text} {root changed : Setting} {entry : Text × Toml}

theorem givenBy_of_apart {path : Text × Text} (apart : Key.Apart path (topKey entry.1)) :
    givenBy path entry = [] := by
  apply List.filterMap_eq_nil_iff.mpr
  intro member given
  refine if_neg fun same => ?_
  generalize key : topKey entry.1 = written at apart
  simp only [membersOf, key] at given
  cases apart with
  | table steps differ =>
    split at given
    next same' _ =>
      cases same'
      obtain ⟨_, _, rfl⟩ := List.mem_map.mp given
      exact differ (congrArg Prod.fst same).symm
    next same' =>
      cases same'
      obtain rfl := List.mem_singleton.mp given
      exact differ (congrArg Prod.fst same).symm
    next => cases given
  | member steps _ differ =>
    split at given
    next same' _ => cases same'
    next same' =>
      cases same'
      obtain rfl := List.mem_singleton.mp given
      exact differ (congrArg Prod.snd same).symm
    next => cases given

theorem givenBy_table {name : Text} {members : List (Text × Toml)} {path : Text × Text}
    (key : topKey entry.1 = [.member name]) (table : entry.2 = .table members)
    (same : path.1 = Text.lowercase name) :
    givenBy path entry = Setting.valuesOf path.2 members := by
  simp only [givenBy, membersOf, key, table, List.filterMap_map, Setting.valuesOf]
  congr 1
  funext member
  simp [Prod.ext_iff, same]

theorem givenBy_member {table name : Text} {path : Text × Text}
    (key : topKey entry.1 = [.member table, .member name]) (same : path.1 = Text.lowercase table) :
    givenBy path entry = if Text.lowercase name = path.2 then [entry.2] else [] := by
  by_cases here : Text.lowercase name = path.2
  next => simp [givenBy, membersOf, key, Prod.ext_iff, same, here]
  next => simp [givenBy, membersOf, key, Prod.ext_iff, same, here]

theorem holds_set? {values : Field → Setting} (regular : Regular entry) (held : Holds root values)
    (set : (topKey entry.1).set? (Setting.ofToml origin entry.2) root = some changed) :
    Holds changed fun field =>
      ((givenBy field.path entry).getLast?.map (Setting.ofToml origin)).getD (values field) := by
  intro field
  change _ = some (((givenBy field.path entry).getLast?.map (Setting.ofToml origin)).getD
    (values field))
  -- Whatever kind of entry it is, a key that leads past the setting leaves it.
  have kept (apart : Key.Apart field.path (topKey entry.1)) :
      changed.at? field.path = some (((givenBy field.path entry).getLast?.map
        (Setting.ofToml origin)).getD (values field)) := by
    rw [apart.at?_eq (held field) set, givenBy_of_apart apart]
    rfl
  cases regular with
  | table name members key table scalars =>
    by_cases same : field.path.1 = Text.lowercase name
    next =>
      rw [key, table, Setting.ofToml] at set
      obtain rfl := Option.some.inj set
      have incoming := Toml.isScalar_ofEntries origin scalars
      rw [Setting.at?_assign_table origin (held field) same incoming,
        Setting.getLast?_valuesOf_ofEntries, givenBy_table key table same]
    next => exact kept (key ▸ .table [] same)
  | member table name key scalar =>
    by_cases same : field.path.1 = Text.lowercase table
    next =>
      have incoming := (Toml.isScalar_ofToml origin entry.2).trans scalar
      rw [key] at set
      rw [Key.at?_set?_member (held field) same incoming set, givenBy_member key same]
      split <;> rfl
    next => exact kept (key ▸ .table [.member name] same)
  | apart apart => exact kept (apart field)

theorem getLast?_given (path : Text × Text) (document : List (Text × Toml)) :
    (given path document).getLast? =
      (document.filterMap fun entry => (givenBy path entry).getLast?).getLast? := by
  rw [given, List.getLast?_flatMap, List.getLast?_filterMap]

/-- No setting is given twice, in the same letters or in others. -/
structure RegularDocument (document : List (Text × Toml)) : Prop where
  entries : ∀ entry ∈ document, Regular entry
  distinct : ∀ field : Field, (given field.path document).length ≤ 1

theorem RegularDocument.head?_given {document : List (Text × Toml)}
    (regular : RegularDocument document) (field : Field) :
    (given field.path document).head? = (given field.path document).getLast? := by
  have once := regular.distinct field
  match values : given field.path document with
  | [] => rfl
  | [value] => rfl
  | value :: other :: rest => simp [values] at once

def document? (files : Files) (file : SettingsFile) : Option (Text × List (Text × Toml)) :=
  match locate files (path file) with
  | .ok (found, text) => (Toml.ofDocument? text).map fun document => (shown found, document)
  | .error _ => none

def fileValue? (files : Files) (field : Field) (file : SettingsFile) : Option Setting :=
  (document? files file).bind fun (origin, document) =>
    (given field.path document).head?.map (Setting.ofToml (some origin))

/-- What is read of a file is a regular document. A file that is named has to be there. -/
structure Fits (files : Files) (file : SettingsFile) : Prop where
  wellFormed : ∀ found text, locate files (path file) = .ok (found, text) →
    ∃ document, Toml.ofDocument? text = some document ∧ RegularDocument document
  present : ∀ written, file = .named written →
    ∃ found text, locate files written = .ok (found, text)

theorem Fits.regularDocument {files : Files} {file : SettingsFile} {origin : Text}
    {document : List (Text × Toml)} (fits : Fits files file)
    (read : document? files file = some (origin, document)) : RegularDocument document := by
  unfold document? at read
  split at read
  next found text located =>
    obtain ⟨document', parsed, regular⟩ := fits.wellFormed found text located
    simp only [parsed, Option.map_some, Option.some.injEq, Prod.mk.injEq] at read
    rwa [← read.2]
  next => cases read

structure FileEntry where
  origin : Text
  name : Text
  value : Toml

def entriesOf (files : Files) (file : SettingsFile) : List FileEntry :=
  match document? files file with
  | some (origin, document) => document.map fun (name, value) => { origin, name, value }
  | none => []

def addEntry (root : Setting) (entry : FileEntry) : Except SettingsError Setting :=
  assign root (topKey entry.name) (Setting.ofToml (some entry.origin) entry.value)

def entryValue? (field : Field) (entry : FileEntry) : Option Setting :=
  (givenBy field.path (entry.name, entry.value)).getLast?.map
    (Setting.ofToml (some entry.origin))

variable {files : Files} {file : SettingsFile}

theorem addFile_eq (fits : Fits files file) (root : Setting) :
    addFile files root file = (entriesOf files file).foldlM addEntry root := by
  cases found : locate files (path file) with
  | ok place =>
    obtain ⟨document, read, _⟩ := fits.wellFormed place.1 place.2 found
    have added : addText root (shown place.1) place.2 =
        (document.map fun (name, value) =>
          { origin := shown place.1, name, value }).foldlM addEntry root := by
      simp only [addText, read, Setting.ofEntries_eq_map, List.foldlM_map, addEntry]
    cases file <;>
      simpa only [addFile, entriesOf, document?, found, read, Option.map_some] using added
  | error problem =>
    cases file with
    | project directory =>
      simp only [addFile, entriesOf, document?, found, List.foldlM_nil]
      rfl
    | named written =>
      obtain ⟨place, text, present⟩ := fits.present written rfl
      exact absurd (found.symm.trans present) (by simp)

theorem foldlM_addFile {layers : List SettingsFile} (fits : ∀ file ∈ layers, Fits files file)
    (root : Setting) :
    layers.foldlM (addFile files) root =
      (layers.flatMap (entriesOf files)).foldlM addEntry root := by
  induction layers generalizing root with
  | nil => rfl
  | cons file rest ih =>
    obtain ⟨first, others⟩ := List.forall_mem_cons.mp fits
    rw [List.foldlM_cons, addFile_eq first, List.flatMap_cons, List.foldlM_append]
    exact bind_congr fun next => ih others next

/-- As the entries are added one after the other, an index in the key of one selects no place. -/
def OutOfRange : List FileEntry → Setting → Prop
  | [], _ => False
  | entry :: rest, root =>
    (topKey entry.name).OutOfRange root ∨
      ∃ next, addEntry root entry = .ok next ∧ OutOfRange rest next

theorem addEntry_eq_error_iff {entry : FileEntry} {problem : SettingsError} :
    addEntry root entry = .error problem ↔
      problem = .indexOutOfRange ∧ (topKey entry.name).OutOfRange root := by
  have refused :
      (topKey entry.name).set? (Setting.ofToml (some entry.origin) entry.value) root = none ↔
        (topKey entry.name).OutOfRange root :=
    Key.set?_eq_none_iff
  rw [← refused, addEntry, assign]
  split <;> simp [*, eq_comm]

theorem foldlM_addEntry_eq_error_iff {entries : List FileEntry} {problem : SettingsError} :
    entries.foldlM addEntry root = .error problem ↔
      problem = .indexOutOfRange ∧ OutOfRange entries root := by
  induction entries generalizing root with
  | nil => simp [OutOfRange, pure, Except.pure]
  | cons entry rest ih =>
    rw [List.foldlM_cons, OutOfRange]
    cases added : addEntry root entry with
    | error other =>
      obtain ⟨rfl, outside⟩ := addEntry_eq_error_iff.mp added
      simp [outside, bind, Except.bind, eq_comm]
    | ok next =>
      have inside : ¬(topKey entry.name).OutOfRange root := by
        intro outside
        cases added.symm.trans (addEntry_eq_error_iff.mpr ⟨rfl, outside⟩)
      simpa [inside, bind, Except.bind] using ih

theorem not_outOfRange_of_forward {entries : List FileEntry}
    (forward : ∀ entry ∈ entries, (topKey entry.name).CountsForward) (root : Setting) :
    ¬OutOfRange entries root := by
  induction entries generalizing root with
  | nil => exact id
  | cons entry rest ih =>
    obtain ⟨first, others⟩ := List.forall_mem_cons.mp forward
    rintro (outside | ⟨next, _, outside⟩)
    next => exact first.not_outOfRange root outside
    next => exact ih others next outside

theorem regular_of_mem_entriesOf {entry : FileEntry} (fits : Fits files file)
    (listed : entry ∈ entriesOf files file) : Regular (entry.name, entry.value) := by
  unfold entriesOf at listed
  split at listed
  next origin document read =>
    obtain ⟨inner, among, rfl⟩ := List.mem_map.mp listed
    exact (fits.regularDocument read).entries inner among
  next => cases listed

theorem getLast?_entriesOf (fits : Fits files file) (field : Field) :
    ((entriesOf files file).filterMap (entryValue? field)).getLast? =
      fileValue? files field file := by
  cases read : document? files file with
  | none => simp [entriesOf, fileValue?, read]
  | some place =>
    obtain ⟨origin, document⟩ := place
    have regular := fits.regularDocument read
    simp only [entriesOf, fileValue?, read, List.filterMap_map, Option.bind_some,
      regular.head?_given, getLast?_given, ← List.getLast?_map, List.map_filterMap,
      Function.comp_def, entryValue?]

theorem holds_entries {layers : List SettingsFile} (fits : ∀ file ∈ layers, Fits files file)
    {values : Field → Setting} {reached : Setting} (held : Holds root values)
    (ran : (layers.flatMap (entriesOf files)).foldlM addEntry root = .ok reached) :
    Holds reached fun field =>
      ((layers.filterMap (fileValue? files field)).getLast?).getD (values field) := by
  have steps : ∀ entry ∈ layers.flatMap (entriesOf files), ∀ root values next,
      Holds root values → addEntry root entry = .ok next →
        Holds next fun field => (entryValue? field entry).getD (values field) := by
    intro entry member root values next held added
    obtain ⟨file, among, listed⟩ := List.mem_flatMap.mp member
    refine holds_set? (regular_of_mem_entriesOf (fits file among) listed) held ?_
    unfold addEntry assign at added
    split at added <;> cases added
    assumption
  have last (field : Field) :
      ((layers.flatMap (entriesOf files)).filterMap (entryValue? field)).getLast? =
        (layers.filterMap (fileValue? files field)).getLast? := by
    rw [List.filterMap_flatMap, List.getLast?_flatMap, ← List.getLast?_filterMap]
    exact congrArg List.getLast? (List.filterMap_congr fun file among =>
      getLast?_entriesOf (fits file among) field)
  simpa only [last] using holds_foldlM steps held ran

theorem holds_addOverride {values : Field → Setting} (held : Holds root values)
    {field : Field} {value : Scalar} (added : addOverride root (field.steps, value) = .ok changed) :
    Holds changed fun other =>
      (if field = other then some (.scalar none value) else none).getD (values other) := by
  have set : field.steps.set? (.scalar none value) root = some changed := by
    cases added
    rfl
  intro other
  change _ = some ((if field = other then some (.scalar none value) else none).getD (values other))
  obtain ⟨table, name⟩ := field.lowercase_path
  by_cases sameTable : other.path.1 = Text.lowercase field.path.1
  next =>
    have sameField : field.path.2 = other.path.2 ↔ field = other := by
      constructor
      next =>
        intro sameName
        exact Field.path_injective (Prod.ext (sameTable.trans table).symm sameName)
      next =>
        rintro rfl
        rfl
    rw [Key.at?_set?_member (held other) sameTable rfl set, name]
    by_cases same : field = other
    next => rw [if_pos (sameField.mpr same), if_pos same, Option.getD_some]
    next => rw [if_neg (mt sameField.mp same), if_neg same, Option.getD_none]
  next =>
    have differ : field ≠ other := fun same => sameTable (by rw [← same, table])
    have apart : Key.Apart other.path field.steps := .table _ sameTable
    rw [apart.at?_eq (held other) set, if_neg differ, Option.getD_none]

theorem exists_foldlM_addOverride (overrides : List (Field × Scalar)) (root : Setting) :
    ∃ reached, (overrides.map fun entry => (entry.1.steps, entry.2)).foldlM addOverride root =
      .ok reached := by
  induction overrides generalizing root with
  | nil => exact ⟨root, rfl⟩
  | cons entry rest ih =>
    obtain ⟨next, added⟩ : ∃ next, addOverride root (entry.1.steps, entry.2) = .ok next := ⟨_, rfl⟩
    rw [List.map_cons, List.foldlM_cons, added]
    exact ih next

end Layers

end Terminator
