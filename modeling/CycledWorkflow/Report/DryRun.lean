import CycledWorkflow.Catalog.Build
/-!
# The dry-run report

The text shown instead of a graph when an experiment is only planned: the mode, each
running cadence with its window and interval, a note when the secondary cadence was dropped
because it would start after the end date, and the planned tasks by full name.

Every line ends with a newline.
-/

namespace CycledWorkflow

namespace Report

/-- The line of a running cadence. -/
def cadenceLine (c : Cadence) : String :=
  "  cadence " ++ c.id.name ++ ": " ++ c.start.ymdh ++ " .. " ++ c.finish.ymdh ++ " every " ++
    c.interval.hms ++ "\n"

/-- The note on a dropped secondary cadence. -/
def disabledLine (cal : Calendar) : String :=
  match cal.secondary with
  | some s => if s.cadence.valid then "" else
      "  cadence " ++ s.cadence.id.name ++ " disabled (starts after EDATE)\n"
  | none => ""

/-- The dry-run report of a calendar and a plan. -/
def dryRun (cal : Calendar) (plan : TaskPlan) : String :=
  "cycledag dry-run (" ++ cal.experiment.mode.name ++ ")\n" ++
    String.join (cal.cadences.map cadenceLine) ++ disabledLine cal ++ "\n" ++
    "tasks (" ++ toString plan.taskCount ++ "):\n" ++
    String.join (plan.names.map fun n => "  - " ++ n ++ "\n")

end Report

end CycledWorkflow
