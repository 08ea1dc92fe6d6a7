import CycledWorkflow.Calendar.Derive
import CycledWorkflow.Catalog.Features
import CycledWorkflow.Catalog.Plan
/-!
# Describing a group's tasks

Everything a rule needs to describe a task of one group: the calendar (with the derived
configuration), the feature switches, the whole plan (so that a rule can ask which tasks
exist, here or in the data-assimilation group) and the group itself.

A task starts out on its group's cadence, waiting for nothing, with the variables every task
sees; the rules of each mode then refine it.
-/

namespace CycledWorkflow

/-- The facts a rule may consult while describing a task of one group. -/
structure Context where
  /-- The calendar, with the derived configuration. -/
  calendar : Calendar
  /-- The feature switches. -/
  features : Features
  /-- The plan of every group. -/
  plan : TaskPlan
  /-- The group being described. -/
  group : CycleGroup

namespace Context

/-- The derived base scope. -/
def base (c : Context) : Config.Scope := c.calendar.base

/-- Whether the group is the data-assimilation group. -/
def isGdas (c : Context) : Bool := c.group == .gdas

/-- The name of a task of the group. -/
def name (c : Context) (t : TaskKind) : String := taskName c.group t

/-- Whether the group runs a kind of task. -/
def has (c : Context) (t : TaskKind) : Bool := c.plan.contains c.group t

/-- Whether another group runs a kind of task. -/
def hasIn (c : Context) (g : CycleGroup) (t : TaskKind) : Bool := c.plan.contains g t

/-- The task of a kind in this group, else in the data-assimilation group, if either runs it. -/
def localOrGdas (c : Context) (t : TaskKind) : Option String :=
  if c.has t then some (c.name t)
  else if c.hasIn .gdas t then some (taskName .gdas t)
  else none

/-- The name of a metatask of the group: its label and a suffix. -/
def metataskName (c : Context) (suffix : String) : String := c.group.label ++ suffix

/-- The settings of a kind of task: the base overlaid with its sections. -/
def scope (c : Context) (t : TaskKind) : Config.Scope :=
  c.calendar.experiment.taskScope t.configSections

/-- The interval of the group's cadence, six hours if it has none. -/
def interval (c : Context) : Span :=
  (c.calendar.interval? c.group.defaultCadence).getD Span.sixHours

/-- A task of the group on the group's cadence, waiting for nothing, with the variables every
task sees. -/
def spec (c : Context) (t : TaskKind) : TaskSpec :=
  { group := c.group, task := t, cadence := c.group.defaultCadence, dependency := none,
    env := cycleBindings (c.base.stringOr "RUN_ENVIR" "emc") c.group, fanOut := none }

/-- A fresh task runs on its group's cadence. -/
theorem spec_cadence (c : Context) (t : TaskKind) :
    (c.spec t).cadence = c.group.defaultCadence := rfl

end Context

end CycledWorkflow
