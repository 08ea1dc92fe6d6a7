import CycledWorkflow.Calendar.Json
import CycledWorkflow.Catalog.Json
import CycledWorkflow.Dependency.Json
import CycledWorkflow.Graph.Basic
/-!
# Interchange form of workflow graphs

A graph as a JSON document: its mode, provenance (time made and experiment name), bindings,
settings, running cadences and groups of entries. A task entry is its node's fields with
`"kind": "task"`; a metatask entry has `"kind": "metatask"`, its name, variable, values and
side tables, and its member node under `"task"`. A node without a dependency leaves the field
out.
-/

namespace CycledWorkflow

/-- The fields of a task node. -/
def TaskNode.fields (n : TaskNode) : List (String × Json.Value) :=
  [("name", .str n.name), ("task", .str n.task.name), ("group", .str n.group.label),
   ("cadence", .str n.cadence.name), ("command", .str n.command), ("job_name", .str n.jobName),
   ("log", .str n.log), ("max_tries", .int n.maxTries), ("env", .arr (n.env.map EnvBinding.toJson))] ++
  Json.optMember "dependency" (n.dependency.map Dependency.toJson) ++
  [("resources", n.resources.toJson), ("slots", .arr (n.slots.map fun s => .str s.name))]

/-- The interchange form of an entry. -/
def Entry.toJson : Entry → Json.Value
  | .task n => .obj (("kind", .str "task") :: n.fields)
  | .metatask f n =>
    .obj [("kind", .str "metatask"), ("name", .str f.metatask), ("var", .str f.var),
      ("values", .arr (f.values.map .str)), ("side_tables", f.sideTablesJson),
      ("task", .obj n.fields)]

/-- The interchange form of a graph. -/
def Graph.toJson (g : Graph) : Json.Value :=
  .obj [("mode", .str g.mode.name),
    ("provenance", .obj [("generated_at", .str g.generatedAt), ("pslot", .str g.pslot)]),
    ("bindings", .obj (g.bindings.map fun (k, v) => (k, .str v))),
    ("settings", .obj [("cycle_throttle", .int g.settings.cycleThrottle),
      ("task_throttle", .int g.settings.taskThrottle), ("max_tries", .int g.settings.maxTries)]),
    ("cadences", .arr (g.cadences.map Cadence.toJson)),
    ("groups", .arr (g.groups.map fun grp =>
      .obj [("group", .str grp.group.label), ("entries", .arr (grp.entries.map Entry.toJson))]))]

end CycledWorkflow
