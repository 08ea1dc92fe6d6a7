import CycledWorkflow.Catalog.Plan
import CycledWorkflow.Json.Value
/-!
# Interchange form of task descriptions

Variable bindings and fan-outs as JSON values, as they appear in a compiled graph:

* a binding is `{"name", "value"}`, its value `{"kind": "text", "value"}` or
  `{"kind": "cycle_time", "format", "offset"?}` with the offset written `[-]HH:MM:SS` and
  left out when the binding is of the task's own cycle;
* the side tables of a fan-out are an object from table name to its entries.
-/

namespace CycledWorkflow

/-- The interchange form of a bound value. -/
def EnvValue.toJson : EnvValue → Json.Value
  | .text v => .obj [("kind", .str "text"), ("value", .str v)]
  | .cycleTime format offset =>
    .obj ([("kind", .str "cycle_time"), ("format", .str format.name)] ++
      match offset with
      | some d => [("offset", .str d.hms)]
      | none => [])

/-- The interchange form of a binding. -/
def EnvBinding.toJson (b : EnvBinding) : Json.Value :=
  .obj [("name", .str b.name), ("value", b.value.toJson)]

/-- The side tables of a fan-out as an object. -/
def FanOut.sideTablesJson (f : FanOut) : Json.Value :=
  .obj (f.sideTables.map fun (k, t) => (k, .arr (t.map .str)))

end CycledWorkflow
