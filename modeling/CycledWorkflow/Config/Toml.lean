import CycledWorkflow.Config.Experiment
import CycledWorkflow.Toml.Read
/-!
# Configurations as TOML

The TOML form of a configuration: the table `base` is the base scope and the table `task`
holds one table per section; both may be missing, and other top-level keys are ignored. A
value of a scope must be a boolean, an integer, a float or a string: a date-time, an array or
a table in a scope makes the document unreadable, as does any syntax error. An integer in a
scope must fit a signed 64-bit word or, read as the nearest float, an unsigned one; larger
integers are read, but only outside the scopes.
-/

namespace CycledWorkflow.Config

/-- The greatest unsigned 64-bit value. -/
def unsignedWordMax : Int := 18446744073709551615

/-- The configuration value of a TOML integer: an integer in the signed 64-bit range, the
nearest float for one past it up to the unsigned 64-bit range, and none beyond. -/
def Value.ofTomlInteger (i : Int) : Option Value :=
  if Text.fitsWord i then some (.int i)
  else if 0 < i ∧ i ≤ unsignedWordMax then some (.float (Binary64.ofNat i.toNat))
  else none

/-- The configuration value of a TOML value, if it is one. -/
def Value.ofToml : Toml.Value → Option Value
  | .boolean b => some (.bool b)
  | .integer i => Value.ofTomlInteger i
  | .float x => some (.float x)
  | .string s => some (.text s)
  | _ => none

/-- The entries of a table node, whether from headers, dotted keys or an inline table. -/
def tomlTable? : Toml.Node → Option Toml.Entries
  | .table _ es => some es
  | .leaf (.table kvs) => some (kvs.map fun (k, v) => (k, .leaf v))
  | _ => none

/-- The scope of TOML table entries, if every entry is a value. -/
def Scope.ofToml (es : Toml.Entries) : Option Scope := do
  let entries ← es.mapM fun (k, n) =>
    match n with
    | .leaf v => (Value.ofToml v).map fun x => (k, x)
    | _ => none
  return Scope.ofList entries

/-- The configuration document of a TOML text. -/
def Document.ofToml? (text : String) : Option Document := do
  let root ← match Toml.parse text with
    | .ok es => some es
    | .error _ => none
  let base ← match Toml.find? "base" root with
    | some n => (tomlTable? n).bind Scope.ofToml
    | none => some Scope.empty
  let sections ← match Toml.find? "task" root with
    | some n => do
      let es ← tomlTable? n
      es.foldlM (fun acc (name, m) => do
        let s ← (tomlTable? m).bind Scope.ofToml
        return insertSection name s acc) []
    | none => some []
  return { base, sections }

end CycledWorkflow.Config
