import CycledWorkflow.Catalog.Mode.Cycled
import CycledWorkflow.Catalog.Mode.EnsRegrid
import CycledWorkflow.Catalog.Mode.ForecastOnly
import CycledWorkflow.Catalog.Mode.Omf
import CycledWorkflow.Catalog.Mode.Replay
/-!
# The task catalog of an experiment

The catalog joins a calendar with the feature switches read from its derived base. Its plan
is the mode's plan without the groups whose cadence does not run; building it describes every
planned task, group by group, by the mode's rules, and checks that each task's cadence runs
and that its fan-out is sound. The first task that fails stops the build.
-/

namespace CycledWorkflow

/-- The plan of a mode before groups without a running cadence are dropped. -/
def Mode.plan (m : Mode) (f : Features) (primary : CycleGroup) : TaskPlan :=
  match m with
  | .cycled => Cycled.plan f
  | .forecastOnly => ForecastOnly.plan f primary
  | .replay => Replay.plan f
  | .omf => Omf.plan f
  | .ensRegrid => EnsRegrid.plan

/-- The description of a task by a mode's rules. -/
def Mode.describe (m : Mode) (c : Context) (t : TaskKind) : Outcome TaskSpec :=
  match m with
  | .cycled => Cycled.describe c t
  | .forecastOnly => ForecastOnly.describe c t
  | .replay => Replay.describe c t
  | .omf => Omf.describe c t
  | .ensRegrid => EnsRegrid.describe c t

/-- A calendar together with the feature switches of its derived base. -/
structure Catalog where
  /-- The calendar. -/
  calendar : Calendar
  /-- The feature switches. -/
  features : Features

namespace Catalog

/-- The catalog of a calendar. -/
def ofCalendar (cal : Calendar) : Outcome Catalog := do
  return ⟨cal, ← Features.ofScope cal.base⟩

/-- The experiment's mode. -/
def mode (c : Catalog) : Mode := c.calendar.experiment.mode

/-- The plan: the mode's plan without the groups whose cadence does not run. -/
def plan (c : Catalog) : TaskPlan :=
  (c.mode.plan c.features c.calendar.primaryGroup).retainGroups
    fun g => c.calendar.isValid g.defaultCadence

/-- Checking a described task: its cadence runs and its fan-out is sound. -/
def checkSpec (cal : Calendar) (s : TaskSpec) : Outcome TaskSpec := do
  if !cal.isValid s.cadence then
    throw (.config ("task '" ++ s.name ++ "' is placed on cadence '" ++ s.cadence.name ++
      "', which is not active"))
  if let some f := s.fanOut then f.check s.name
  return s

/-- Every planned task described and checked, group by group. -/
def build (c : Catalog) : Outcome (List TaskSpec) := do
  let p := c.plan
  let groups ← p.groups.mapM fun (g, tasks) =>
    let ctx : Context := ⟨c.calendar, c.features, p, g⟩
    tasks.mapM fun t => do checkSpec c.calendar (← c.mode.describe ctx t)
  return groups.flatten

/-- Every group of the plan has a running cadence. -/
theorem plan_groups_valid (c : Catalog) (g : CycleGroup) (ts : List TaskKind)
    (h : (g, ts) ∈ c.plan.groups) : c.calendar.isValid g.defaultCadence = true := by
  simp only [plan, TaskPlan.retainGroups, List.mem_filter] at h
  exact h.2

end Catalog

end CycledWorkflow
