import CycledWorkflow.Catalog.Products
/-!
# Observation-minus-forecast experiments

An observation-minus-forecast experiment compares observations with the previous cycle's
six-hour forecast: it prepares the observations, runs the observer, writes the diagnostics
and archives them, all in the data-assimilation group. With tape archiving on, the forecast
files are fetched first when they are missing.
-/

namespace CycledWorkflow

namespace Omf

/-- The tasks of an observation-minus-forecast experiment. -/
def tasks (f : Features) : List TaskKind :=
  TaskKind.listIf f.doHpssarch [.getfcst] ++ [.prep, .gomg, .analdiag, .archomg]

/-- The plan of an observation-minus-forecast experiment. -/
def plan (f : Features) : TaskPlan := ({} : TaskPlan).withGroup .gdas (tasks f)

/-- The previous cycle's six-hour forecast files. -/
def backgroundFiles : Prerequisites :=
  ["atmf006.nc", "sfcf006.nc"].foldl
    (fun p file => p.data ((DataCheck.new (Template.rotdirFile "gdas" file)).atOffset
      Span.previousCycle))
    Prerequisites.empty

/-- The description of a task of an observation-minus-forecast experiment. -/
def describe (c : Context) (t : TaskKind) : Outcome TaskSpec :=
  let spec := c.spec t
  let predecessor := fun (k : TaskKind) => some (Dependency.peer (c.name k))
  match t with
  | .getfcst => pure (spec.dependsOn backgroundFiles.none)
  | .prep =>
    pure (spec.dependsOn (if c.has .getfcst then predecessor .getfcst else backgroundFiles.all))
  | .gomg => pure (spec.dependsOn (predecessor .prep))
  | .analdiag => pure (spec.dependsOn (predecessor .gomg))
  | .archomg => pure (spec.dependsOn (predecessor .analdiag))
  | other => throw (.config ("task '" ++ other.name ++ "' is not part of omf experiments"))

end Omf

end CycledWorkflow
