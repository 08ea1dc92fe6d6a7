import CycledWorkflow.Catalog.Products
/-!
# Ensemble regridding experiments

An ensemble regridding experiment fetches the ensemble members' forecasts, regrids them in
member groups, post-processes the regridded ensemble and archives it, all in the
data-assimilation group. Every task also sees the previous cycle, six hours back.
-/

namespace CycledWorkflow

namespace EnsRegrid

/-- The tasks of an ensemble regridding experiment. -/
def tasks : List TaskKind := [.eget, .enspost, .ergpos, .archerg]

/-- The plan of an ensemble regridding experiment. -/
def plan : TaskPlan := ({} : TaskPlan).withGroup .gdas tasks

/-- The description of a task, before the previous cycle's variables are added. -/
def describeOwn (c : Context) (t : TaskKind) : Outcome TaskSpec := do
  match t with
  | .eget => Staging.eget c
  | .enspost =>
    let fan ← Staging.memberFanOut c "ermn" "NMEM_EARCGRP" 1
    return (c.spec .enspost).dependsOn (some (.metatask (c.metataskName "egmn")))
      |>.withEnv (.fanOutVar "ENSGRP" "grp")
      |>.fannedOut fan
  | .ergpos => return (c.spec .ergpos).dependsOn (some (.metatask (c.metataskName "ermn")))
  | .archerg => return (c.spec .archerg).dependsOn (some (.peer (c.name .ergpos)))
  | other =>
    throw (.config ("task '" ++ other.name ++ "' is not part of ens-regrid experiments"))

/-- The description of a task of an ensemble regridding experiment. -/
def describe (c : Context) (t : TaskKind) : Outcome TaskSpec := do
  let s ← describeOwn c t
  return { s with env := s.env ++ previousCycleBindings Span.sixHours }

end EnsRegrid

end CycledWorkflow
