import Terminator.Text.Lowercase
import Terminator.Text.Quoted
import Terminator.Toml

set_option autoImplicit false

namespace Terminator

inductive Scalar where
  | null
  | boolean (value : Bool)
  | integer (value : Int)
  | float (value : Binary64)
  | string (value : Text)
  deriving DecidableEq, Repr

inductive Setting where
  | scalar (origin : Option Text) (value : Scalar)
  | array (origin : Option Text) (items : List Setting)
  | table (origin : Option Text) (entries : List (Text × Setting))

namespace Setting

def empty : Setting := .table none []

def origin : Setting → Option Text
  | .scalar origin _ | .array origin _ | .table origin _ => origin

mutual

def ofToml (origin : Option Text) : Toml → Setting
  | .string value => .scalar origin (.string value)
  | .integer value => .scalar origin (.integer value)
  | .float value => .scalar origin (.float value)
  | .boolean value => .scalar origin (.boolean value)
  | .moment written => .scalar origin (.string written)
  | .array items => .array origin (ofItems origin items)
  | .table entries => .table origin (ofEntries origin entries)

def ofItems (origin : Option Text) : List Toml → List Setting
  | [] => []
  | item :: rest => ofToml origin item :: ofItems origin rest

def ofEntries (origin : Option Text) : List (Text × Toml) → List (Text × Setting)
  | [] => []
  | (key, value) :: rest => (key, ofToml origin value) :: ofEntries origin rest

end

def find? (entries : List (Text × Setting)) (key : Text) : Option Setting :=
  (entries.find? (·.1 = key)).map (·.2)

def put : List (Text × Setting) → Text → Setting → List (Text × Setting)
  | [], key, value => [(key, value)]
  | (name, prior) :: rest, key, value =>
    if name = key then (key, value) :: rest else (name, prior) :: put rest key value

theorem find?_put_self (entries : List (Text × Setting)) (key : Text) (value : Setting) :
    find? (put entries key value) key = some value := by
  induction entries with
  | nil => simp [put, find?]
  | cons entry rest ih =>
    by_cases here : entry.1 = key
    next => simp [put, find?, here]
    next => simpa [put, find?, here] using ih

theorem find?_put_of_ne (entries : List (Text × Setting)) {key other : Text} (value : Setting)
    (differ : other ≠ key) : find? (put entries key value) other = find? entries other := by
  induction entries with
  | nil => simp [put, find?, differ.symm]
  | cons entry rest ih =>
    by_cases here : entry.1 = key
    next => simp [put, find?, here, differ.symm]
    next =>
      by_cases found : entry.1 = other
      next => simp [put, find?, found, differ]
      next => simpa [put, find?, here, found] using ih

def asTable : Setting → Option Text × List (Text × Setting)
  | .table origin entries => (origin, entries)
  | .scalar _ _ | .array _ _ => (none, [])

def asArray : Setting → Option Text × List Setting
  | .array origin items => (origin, items)
  | .scalar _ _ | .table _ _ => (none, [])

mutual

/-- Sets a member of a table. A table is merged into what is there, and anything else replaces
it. An empty table changes nothing where there is something already. -/
def assign (root : Setting) (key : Text) : Setting → Setting
  | .table _ incoming =>
    let (origin, entries) := root.asTable
    let name := Text.lowercase key
    let target := (find? entries name).getD empty
    .table origin (put entries name (assignAll target incoming))
  | .scalar source value =>
    let (origin, entries) := root.asTable
    .table origin (put entries (Text.lowercase key) (.scalar source value))
  | .array source items =>
    let (origin, entries) := root.asTable
    .table origin (put entries (Text.lowercase key) (.array source items))

def assignAll (root : Setting) : List (Text × Setting) → Setting
  | [] => root
  | (key, value) :: rest => assignAll (assign root key value) rest

end

def modifyMember (root : Setting) (key : Text) (change : Setting → Option Setting) :
    Option Setting := do
  let (origin, entries) := root.asTable
  let name := Text.lowercase key
  let value ← change ((find? entries name).getD (.scalar none .null))
  some (.table origin (put entries name value))

/-- Two to the power of 56, more than the items of any array. -/
def placeBound : Nat := 0x100000000000000

-- A negative index counts from the end, and none counts back to before the start.
def place? (length : Nat) : Int → Option Nat
  | .ofNat place => if place < placeBound then some place else none
  | .negSucc before => if before < length then some (length - 1 - before) else none

def modifyItem (root : Setting) (index : Int) (change : Setting → Option Setting) :
    Option Setting := do
  let (origin, items) := root.asArray
  let place ← place? items.length index
  let padded := items ++ List.replicate (place + 1 - items.length) (.scalar none .null)
  let item ← change (padded.getD place (.scalar none .null))
  some (.array origin (padded.set place item))

end Setting

end Terminator
