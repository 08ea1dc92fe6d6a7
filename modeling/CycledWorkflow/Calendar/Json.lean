import CycledWorkflow.Calendar.Cadence
import CycledWorkflow.Json.Value
/-!
# Interchange form of cadences

A cadence as a JSON object: its id, its first and last cycle as ISO date-times, its
interval as `[-]HH:MM:SS`, and whether it runs.
-/

namespace CycledWorkflow

/-- The interchange form of a cadence. -/
def Cadence.toJson (c : Cadence) : Json.Value :=
  .obj [("id", .str c.id.name), ("start", .str c.start.iso), ("end", .str c.finish.iso),
    ("interval", .str c.interval.hms), ("valid", .bool c.valid)]

end CycledWorkflow
