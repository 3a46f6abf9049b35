import Terminator.Binary64

set_option autoImplicit false

namespace Terminator

/-- A TOML value. A date or a time is kept as its text. -/
inductive Toml where
  | string (value : Text)
  | integer (value : Int)
  | float (value : Binary64)
  | boolean (value : Bool)
  | moment (written : Text)
  | array (items : List Toml)
  | table (entries : List (Text × Toml))
  deriving Inhabited

namespace Toml

-- A table comes from a header of its own, from that of a table inside it, or from a key with dots.
inductive TableForm where
  | declared
  | implied
  | dotted
  deriving DecidableEq, Repr

inductive Draft where
  | value (value : Toml)
  | table (form : TableForm) (entries : List (Text × Draft))
  | tables (earlier : List (List (Text × Draft))) (last : List (Text × Draft))

abbrev Entries := List (Text × Draft)

namespace Draft

mutual

def finish : Draft → Toml
  | .value known => known
  | .table _ entries => .table (finishEntries entries)
  | .tables earlier last => .array (finishTables earlier ++ [.table (finishEntries last)])

def finishEntries : List (Text × Draft) → List (Text × Toml)
  | [] => []
  | (key, draft) :: rest => (key, draft.finish) :: finishEntries rest

def finishTables : List (List (Text × Draft)) → List Toml
  | [] => []
  | entries :: rest => .table (finishEntries entries) :: finishTables rest

end

end Draft

namespace Entries

def find? (entries : Entries) (key : Text) : Option Draft :=
  (List.find? (·.1 = key) entries).map (·.2)

def put : Entries → Text → Draft → Entries
  | [], key, draft => [(key, draft)]
  | (name, prior) :: rest, key, draft =>
    if name = key then (key, draft) :: rest else (name, prior) :: put rest key draft

-- A header may pass through every table, a key with dots only through those without a header.
def within (byDots : Bool) (change : Bool → Entries → Option Entries) :
    List Text → Bool → Entries → Option Entries
  | [], dotted, entries => change dotted entries
  | key :: path, _, entries =>
    match entries.find? key with
    | none => do
      let inner ← within byDots change path byDots []
      some (entries.put key (.table (if byDots then .dotted else .implied) inner))
    | some (.value _) => none
    | some (.tables earlier last) => do
      let inner ← within byDots change path false last
      some (entries.put key (.tables earlier inner))
    | some (.table form inner) =>
      if byDots && form = .declared then none
      else do
        let inner ← within byDots change path (form = .dotted) inner
        some (entries.put key (.table form inner))

-- A key with dots must not add to a table that came by a header.
def assign (path : List Text) (key : Text) (value : Toml) (entries : Entries) : Option Entries :=
  let add (dotted : Bool) (entries : Entries) : Option Entries :=
    if dotted = path.isEmpty then none
    else if (entries.find? key).isSome then none
    else some (entries ++ [(key, .value value)])
  within true add path false entries

def declare (path : List Text) (key : Text) (entries : Entries) : Option Entries :=
  let add (_ : Bool) (entries : Entries) : Option Entries :=
    match entries.find? key with
    | none => some (entries.put key (.table .declared []))
    | some (.table .implied inner) => some (entries.put key (.table .declared inner))
    | some _ => none
  within false add path false entries

def append (path : List Text) (key : Text) (entries : Entries) : Option Entries :=
  let add (_ : Bool) (entries : Entries) : Option Entries :=
    match entries.find? key with
    | none => some (entries.put key (.tables [] []))
    | some (.tables earlier last) => some (entries.put key (.tables (earlier ++ [last]) []))
    | some _ => none
  within false add path false entries

end Entries

end Toml

end Terminator
