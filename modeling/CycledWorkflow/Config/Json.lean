import CycledWorkflow.Config.Experiment
import CycledWorkflow.Config.Scope
import CycledWorkflow.Config.Value
import CycledWorkflow.Json.Value
import CycledWorkflow.Text.Numeral
/-!
# Configurations as JSON

The JSON form of a configuration: an object whose member `base` is the base scope and whose
member `task` maps section names to scopes; both may be missing and other members are
ignored. The same two may also be given by position, as an array of at most two items. A value is taken by the first kind it fits: a boolean, an integer in the signed
64-bit range, a number (an unsigned integer past the signed range becomes the nearest
float), a string. Null, arrays and objects are no values. When a member name repeats, the
last one counts.

The other direction writes a value as a boolean, an integer, a number or a string, and a
scope as an object in key order.
-/

namespace CycledWorkflow.Config

/-- The configuration value of a JSON document, if it is one. -/
def Value.ofJson : Json.Value → Option Value
  | .bool b => some (.bool b)
  | .int i => some (if Text.fitsWord i then .int i else .float (Binary64.ofNat i.toNat))
  | .float x => some (.float x)
  | .str s => some (.text s)
  | _ => none

/-- The JSON document of a configuration value. -/
def Value.toJson : Value → Json.Value
  | .bool b => .bool b
  | .int i => .int i
  | .float x => .float x
  | .text s => .str s

/-- The scope of a JSON object, if every member is a value. -/
def Scope.ofJson (v : Json.Value) : Option Scope := do
  let members ← v.getObj?
  let entries ← members.mapM fun (k, j) => (Value.ofJson j).map fun x => (k, x)
  return Scope.ofList entries

/-- The JSON object of a scope, in key order. -/
def Scope.toJson (s : Scope) : Json.Value := .obj (s.entries.map fun (k, v) => (k, v.toJson))

/-- The sections of a JSON object of scopes, if every member is a scope. -/
def sectionsOfJson (t : Json.Value) : Option (List (String × Scope)) := do
  let members ← t.getObj?
  members.foldlM (fun acc (name, j) => do
    let s ← Scope.ofJson j
    return insertSection name s acc) []

/-- The configuration document of a JSON object, or of an array that lists the base scope and
then the sections, either of which may be left out from the end. -/
def Document.ofJson (v : Json.Value) : Option Document :=
  match v with
  | .obj _ => do
    let base ← match v.get? "base" with
      | some b => Scope.ofJson b
      | none => some Scope.empty
    let sections ← match v.get? "task" with
      | some t => sectionsOfJson t
      | none => some []
    return { base, sections }
  | .arr [] => some { base := Scope.empty, sections := [] }
  | .arr [b] => do return { base := ← Scope.ofJson b, sections := [] }
  | .arr [b, t] => do return { base := ← Scope.ofJson b, sections := ← sectionsOfJson t }
  | _ => none

end CycledWorkflow.Config
