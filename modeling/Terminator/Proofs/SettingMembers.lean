import Mathlib.Tactic.Common
import Terminator.Setting.Key

set_option autoImplicit false

namespace Terminator

namespace Setting

def at? (root : Setting) (path : Text × Text) : Option Setting :=
  match find? root.asTable.2 path.1 with
  | some (.table _ members) => find? members path.2
  | _ => none

theorem at?_eq_some_iff {root value : Setting} {path : Text × Text} :
    root.at? path = some value ↔
      ∃ origin members, find? root.asTable.2 path.1 = some (.table origin members) ∧
        find? members path.2 = some value := by
  unfold at?
  split
  next origin members found => simp [found]
  next other =>
    constructor
    · intro none
      cases none
    · rintro ⟨origin, members, found, _⟩
      exact absurd found (other origin members)

theorem at?_put_of_ne {origin : Option Text} {root value : Setting} {name : Text}
    {path : Text × Text} (differ : path.1 ≠ name) :
    (table origin (put root.asTable.2 name value)).at? path = root.at? path := by
  simp only [at?, asTable, find?_put_of_ne _ value differ]

theorem at?_put_self (origin inner : Option Text) (root : Setting) (members : List (Text × Setting))
    (path : Text × Text) :
    (table origin (put root.asTable.2 path.1 (.table inner members))).at? path =
      find? members path.2 := by
  simp only [at?, asTable, find?_put_self]

def valuesOf {α : Type} (name : Text) (entries : List (Text × α)) : List α :=
  entries.filterMap fun entry => if Text.lowercase entry.1 = name then some entry.2 else none

theorem find?_foldl_put (incoming members : List (Text × Setting)) (name : Text) :
    find? (incoming.foldl (fun members entry => put members (Text.lowercase entry.1) entry.2)
        members) name =
      (valuesOf name incoming).getLast?.or (find? members name) := by
  induction incoming generalizing members with
  | nil => rfl
  | cons entry rest ih =>
    rw [List.foldl_cons, ih, valuesOf, valuesOf]
    by_cases here : Text.lowercase entry.1 = name
    next =>
      rw [here, find?_put_self, List.filterMap_cons_some (by rw [if_pos here]), List.getLast?_cons]
      cases (rest.filterMap _).getLast? <;> rfl
    next =>
      rw [find?_put_of_ne _ _ (Ne.symm here), List.filterMap_cons_none (by rw [if_neg here])]

def isScalar : Setting → Bool
  | .scalar _ _ => true
  | .array _ _ | .table _ _ => false

theorem assign_scalar {origin : Option Text} {members : List (Text × Setting)} {value : Setting}
    (name : Text) (scalar : value.isScalar = true) :
    (table origin members).assign name value =
      .table origin (put members (Text.lowercase name) value) := by
  cases value with
  | scalar source value => rfl
  | array | table => cases scalar

theorem assignAll_scalars {origin : Option Text} {members incoming : List (Text × Setting)}
    (scalars : ∀ entry ∈ incoming, entry.2.isScalar = true) :
    (table origin members).assignAll incoming =
      .table origin (incoming.foldl
        (fun members entry => put members (Text.lowercase entry.1) entry.2) members) := by
  induction incoming generalizing members with
  | nil => rfl
  | cons entry rest ih =>
    obtain ⟨here, others⟩ := List.forall_mem_cons.mp scalars
    rw [assignAll, assign_scalar entry.1 here, ih others, List.foldl_cons]

theorem ofEntries_eq_map (origin : Option Text) (entries : List (Text × Toml)) :
    ofEntries origin entries = entries.map fun entry => (entry.1, ofToml origin entry.2) := by
  induction entries with
  | nil => rfl
  | cons entry rest ih => rw [ofEntries, ih, List.map_cons]

theorem getLast?_valuesOf_ofEntries (origin : Option Text) (entries : List (Text × Toml))
    (name : Text) :
    (valuesOf name (ofEntries origin entries)).getLast? =
      (valuesOf name entries).getLast?.map (ofToml origin) := by
  have read (entry : Text × Toml) :
      (if Text.lowercase entry.1 = name then some (ofToml origin entry.2) else none) =
        (if Text.lowercase entry.1 = name then some entry.2 else none).map (ofToml origin) := by
    split <;> rfl
  rw [valuesOf, valuesOf, ofEntries_eq_map, List.filterMap_map, ← List.getLast?_map,
    List.map_filterMap]
  simp only [Function.comp_def, read]

theorem at?_assign_table {root held : Setting} {name : Text} {path : Text × Text}
    {incoming : List (Text × Setting)} (source : Option Text) (found : root.at? path = some held)
    (same : path.1 = Text.lowercase name)
    (scalars : ∀ entry ∈ incoming, entry.2.isScalar = true) :
    (root.assign name (.table source incoming)).at? path =
      some ((valuesOf path.2 incoming).getLast?.getD held) := by
  obtain ⟨inner, members, foundTable, foundMember⟩ := at?_eq_some_iff.mp found
  rw [same] at foundTable
  simp only [assign, foundTable, Option.getD_some, assignAll_scalars scalars]
  rw [← same, at?_put_self, find?_foldl_put, foundMember, Option.or_some]

theorem modifyMember_eq_some_iff {root changed : Setting} {name : Text}
    {change : Setting → Option Setting} :
    root.modifyMember name change = some changed ↔
      ∃ member, change ((find? root.asTable.2 (Text.lowercase name)).getD (.scalar none .null)) =
          some member ∧
        changed = .table root.asTable.1 (put root.asTable.2 (Text.lowercase name) member) := by
  simp only [modifyMember, bind, Option.bind_eq_some_iff, Option.some.injEq]
  exact exists_congr fun member => and_congr_right fun _ => eq_comm

theorem modifyMember_eq_none_iff {root : Setting} {name : Text}
    {change : Setting → Option Setting} :
    root.modifyMember name change = none ↔
      change ((find? root.asTable.2 (Text.lowercase name)).getD (.scalar none .null)) = none := by
  simp only [modifyMember, bind, Option.bind_eq_none_iff, reduceCtorEq, imp_false]
  exact Option.eq_none_iff_forall_ne_some.symm

theorem place?_eq_none_iff {length : Nat} {index : Int} :
    place? length index = none ↔ index < -length ∨ placeBound ≤ index := by
  cases index with
  | ofNat | negSucc =>
    simp only [place?, ite_eq_right_iff, reduceCtorEq, imp_false, Int.ofNat_eq_natCast]
    omega

def item (items : List Setting) (index : Int) : Setting :=
  items.getD (if index < 0 then items.length + index else index).toNat (.scalar none .null)

theorem getD_padded (items : List Setting) (place : Nat) :
    (items ++ List.replicate (place + 1 - items.length) (scalar none .null)).getD place
      (.scalar none .null) = items.getD place (.scalar none .null) := by
  simp only [List.getD_eq_getElem?_getD, List.getElem?_append, List.getElem?_replicate]
  split
  next => rfl
  next outside =>
    rw [List.getElem?_eq_none (Nat.le_of_not_lt outside)]
    split <;> rfl

theorem getD_of_place? {items : List Setting} {index : Int} {place : Nat}
    (placed : place? items.length index = some place) :
    items.getD place (.scalar none .null) = item items index := by
  have same : (if index < 0 then items.length + index else index).toNat = place := by
    cases index with
    | ofNat | negSucc =>
      simp only [place?] at placed
      grind
  rw [item, same]

theorem modifyItem_eq_none_iff {root : Setting} {index : Int}
    {change : Setting → Option Setting} :
    root.modifyItem index change = none ↔
      (index < -root.asArray.2.length ∨ placeBound ≤ index) ∨
        change (item root.asArray.2 index) = none := by
  rw [← place?_eq_none_iff]
  cases placed : place? root.asArray.2.length index with
  | none => simp [modifyItem, placed]
  | some place =>
    rw [← getD_of_place? placed, ← getD_padded]
    simp only [modifyItem, placed, bind, Option.bind_some, Option.bind_eq_none_iff, reduceCtorEq,
      imp_false, false_or]
    exact Option.eq_none_iff_forall_ne_some.symm

end Setting

namespace Key

open Setting

theorem set?_eq_put {value root changed : Setting} {first : Text} {steps : Key}
    (set : set? value (.member first :: steps) root = some changed) :
    ∃ origin member,
      changed = .table origin (put root.asTable.2 (Text.lowercase first) member) := by
  cases steps with
  | nil =>
    obtain rfl := Option.some.inj set
    cases value <;> exact ⟨_, _, rfl⟩
  | cons step rest =>
    obtain ⟨member, _, same⟩ := modifyMember_eq_some_iff.mp set
    exact ⟨_, member, same⟩

inductive Apart (path : Text × Text) : Key → Prop
  | table {first : Text} (steps : Key) :
      path.1 ≠ Text.lowercase first → Apart path (.member first :: steps)
  | member {first second : Text} (steps : Key) :
      path.1 = Text.lowercase first → path.2 ≠ Text.lowercase second →
        Apart path (.member first :: .member second :: steps)

theorem Apart.at?_eq {key : Key} {path : Text × Text} {root changed value held : Setting}
    (apart : Apart path key) (found : root.at? path = some held)
    (set : set? value key root = some changed) : changed.at? path = some held := by
  cases apart with
  | table steps differ =>
    obtain ⟨outer, member, rfl⟩ := set?_eq_put set
    rw [at?_put_of_ne differ, found]
  | member steps same differ =>
    obtain ⟨inner, members, foundTable, foundMember⟩ := at?_eq_some_iff.mp found
    obtain ⟨new, modified, rfl⟩ := modifyMember_eq_some_iff.mp set
    rw [← same, foundTable, Option.getD_some] at modified
    obtain ⟨inner', member, rfl⟩ := set?_eq_put modified
    rw [← same, at?_put_self, asTable, find?_put_of_ne _ _ differ, foundMember]

theorem at?_set?_member {root changed value held : Setting} {table name : Text}
    {path : Text × Text} (found : root.at? path = some held) (same : path.1 = Text.lowercase table)
    (scalar : value.isScalar = true)
    (set : set? value [.member table, .member name] root = some changed) :
    changed.at? path = some (if Text.lowercase name = path.2 then value else held) := by
  obtain ⟨inner, members, foundTable, foundMember⟩ := at?_eq_some_iff.mp found
  obtain ⟨new, modified, rfl⟩ := modifyMember_eq_some_iff.mp set
  rw [← same, foundTable, Option.getD_some, set?, assign_scalar name scalar] at modified
  obtain rfl := Option.some.inj modified
  rw [← same, at?_put_self]
  by_cases here : Text.lowercase name = path.2
  next => rw [if_pos here, here, find?_put_self]
  next => rw [if_neg here, find?_put_of_ne _ _ (Ne.symm here), foundMember]

/-- An index of the key selects no place in the array that the settings have there. -/
def OutOfRange : Key → Setting → Prop
  | [], _ => False
  | .member name :: rest, root =>
    OutOfRange rest ((find? root.asTable.2 (Text.lowercase name)).getD (.scalar none .null))
  | .item index :: rest, root =>
    (index < -root.asArray.2.length ∨ placeBound ≤ index) ∨
      OutOfRange rest (item root.asArray.2 index)

theorem set?_eq_none_iff {key : Key} {value root : Setting} :
    set? value key root = none ↔ key.OutOfRange root := by
  induction key generalizing root with
  | nil => simp [set?, OutOfRange]
  | cons step rest ih =>
    cases step with
    | member name =>
      cases rest with
      | nil => simp [set?, OutOfRange]
      | cons step rest =>
        have modified : set? value (.member name :: step :: rest) root =
            root.modifyMember name (set? value (step :: rest)) := rfl
        rw [modified, modifyMember_eq_none_iff, ih, ← OutOfRange]
    | item index =>
      have modified :
          set? value (.item index :: rest) root = root.modifyItem index (set? value rest) := by
        cases rest <;> rfl
      rw [modified, modifyItem_eq_none_iff, ih, ← OutOfRange]

def CountsForward (key : Key) : Prop :=
  ∀ index, KeyStep.item index ∈ key → 0 ≤ index ∧ index < placeBound

theorem CountsForward.not_outOfRange {key : Key} (forward : key.CountsForward) (root : Setting) :
    ¬key.OutOfRange root := by
  induction key generalizing root with
  | nil => exact id
  | cons step rest ih =>
    have later : CountsForward rest := fun index member =>
      forward index (List.mem_cons_of_mem step member)
    cases step with
    | member name => exact ih later _
    | item index =>
      have here := forward index List.mem_cons_self
      rintro (outside | outside)
      next => omega
      next => exact ih later _ outside

end Key

namespace Toml

def isScalar : Toml → Bool
  | .string _ | .integer _ | .float _ | .boolean _ | .moment _ => true
  | .array _ | .table _ => false

theorem isScalar_ofToml (origin : Option Text) (value : Toml) :
    (Setting.ofToml origin value).isScalar = value.isScalar := by
  cases value <;> rfl

theorem isScalar_ofEntries {entries : List (Text × Toml)} (origin : Option Text)
    (scalars : ∀ entry ∈ entries, entry.2.isScalar = true) :
    ∀ entry ∈ Setting.ofEntries origin entries, entry.2.isScalar = true := by
  intro entry member
  rw [Setting.ofEntries_eq_map] at member
  obtain ⟨source, among, rfl⟩ := List.mem_map.mp member
  exact (isScalar_ofToml origin source.2).trans (scalars source among)

end Toml

end Terminator
