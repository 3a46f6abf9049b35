import Terminator.Verdict

set_option autoImplicit false

namespace Terminator

inductive Json where
  | null
  | bool (value : Bool)
  | number (written : String)
  | string (value : String)
  | array (items : List Json)
  | object (members : List (String × Json))
  deriving Inhabited

namespace Json

def variantName? : Json → Option String
  | .string name => some name
  | .object [(name, .null)] => some name
  | _ => none

def member? (members : List (String × Json)) (name : String) : Option Json :=
  (members.find? (·.1 = name)).map (·.2)

end Json

def Decision.ofJson? (json : Json) : Option Decision :=
  json.variantName?.bind ofName?

def Reason.ofJson? (json : Json) : Option Reason :=
  json.variantName?.bind ofName?

/-- Reads a verdict from an object with both members, or from a list of the decision and the
reason. Other members are ignored, and the two need not agree. -/
def Verdict.ofJson? : Json → Option Verdict
  | .object members => do
    let decision ← Decision.ofJson? (← Json.member? members "decision")
    let reason ← Reason.ofJson? (← Json.member? members "reason")
    some { decision, reason }
  | .array [first, second] => do
    let decision ← Decision.ofJson? first
    let reason ← Reason.ofJson? second
    some { decision, reason }
  | _ => none

end Terminator
