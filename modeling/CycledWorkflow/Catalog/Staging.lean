import CycledWorkflow.Catalog.Context
import CycledWorkflow.Dependency.Builder
import CycledWorkflow.Dependency.Template
/-!
# Staging rules

Rules shared by the modes for tasks that bring data in: initial conditions, observation
dumps and ensemble members.

* The initial conditions are fetched when the previous forecast (or its coupler restart) is
  there and the analysis is not, or on the first cycle.
* A file written by a running job counts once it is some seconds old (`settleAge`).
* Ensemble members are handled in groups of a fixed size, one member of a metatask each.
-/

namespace CycledWorkflow

namespace Staging

/-- How old a file written by another job must be before it is trusted: thirty seconds. -/
def settleAge : Span := ⟨30, by decide⟩

/-- The coupler restart written by a run's previous forecast. -/
def restartCoupler (run : String) (age : Span) : DataCheck :=
  (DataCheck.new (Template.rotdirPath run "RESTART/")).atOffset Span.previousCycle
    |>.withSuffix "${PDY}.${HH}0000.coupler.res"
    |>.withMinAge age

/-- The status file of the group's observation dump. -/
def dumpStatus (c : Context) : DataCheck :=
  let run := c.group.label
  let suffix := c.base.stringOr "DUMP_SUFFIX" ""
  DataCheck.new ("${DMPDIR}/" ++ run ++ suffix ++ ".${PDY}/${HH}/atmos/" ++ run ++
    ".t${HH}z.updated.status.tm00.bufr_d")

/-- Fetching initial conditions: after the previous forecast when the analysis is missing, or
on the first cycle. -/
def getic (c : Context) : TaskSpec :=
  let previousForecast := Dependency.anyOf
    [.peerAt (taskName .gdas .fcst) Span.previousCycle,
     .artifact (restartCoupler "gdas" settleAge)]
  let analysisMissing := Dependency.noneOf
    [.artifact ((DataCheck.new (Template.rotdirFile c.features.icdump "atmanl.nc")).withMinAge
      settleAge)]
  let dep := Dependency.anyOf
    [.allOf [previousForecast, analysisMissing], .cycleExists Span.previousCycle true]
  (c.spec .getic).dependsOn (some dep)

/-- Ensemble member groups under the metatask of a suffix: `NMEM_ENKF` members (80 by
default) in groups of the size under `sizeKey` (10 by default), numbered from `first`. -/
def memberFanOut (c : Context) (suffix sizeKey : String) (first : Nat) : Outcome FanOut := do
  let members := (← c.base.count? "NMEM_ENKF").getD 80
  let size := (← c.base.count? sizeKey).getD 10
  if size = 0 then throw (.invalidValue sizeKey "0" "a positive group size")
  return FanOut.new (c.metataskName suffix) "grp" (← memberGroups members size first)

/-- Fetching ensemble member forecasts that are not on disk yet, group by group. -/
def eget (c : Context) : Outcome TaskSpec := do
  let missing := fun (file : String) => DataCheck.new
    ("${ROTDIR}/enkfgdas.${PDY}/${HH}/atmos/mem001/gdas.t${HH}z." ++ file)
  let dep := (Prerequisites.empty.data (missing "atmf006.nc")).data (missing "sfcf006.nc") |>.none
  let fan ← memberFanOut c "egmn" "NMEM_EARCGRP" 1
  return (c.spec .eget).dependsOn dep |>.withEnv (.fanOutVar "ENSGRP" "grp") |>.fannedOut fan

end Staging

end CycledWorkflow
