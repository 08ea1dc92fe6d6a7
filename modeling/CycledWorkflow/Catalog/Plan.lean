import CycledWorkflow.Catalog.Env
import CycledWorkflow.Catalog.FanOut
import CycledWorkflow.Catalog.Task
import CycledWorkflow.Dependency.Expr
/-!
# Task plans and task specifications

A plan lists, group by group, the kinds of task an experiment runs; a task is named by its
group's label followed by its kind's name. A specification describes one planned task: the
cadence it runs on, what it waits for, its variables and, for a metatask, its fan-out.
-/

namespace CycledWorkflow

/-- The name of a task: its group's label and its kind's name. -/
def taskName (group : CycleGroup) (task : TaskKind) : String := group.label ++ task.name

/-- The kinds of task an experiment runs, group by group, in order. -/
structure TaskPlan where
  /-- Each group with its tasks. -/
  groups : List (CycleGroup × List TaskKind) := []
  deriving DecidableEq, Repr

namespace TaskPlan

/-- The plan with one more group at the end. -/
def withGroup (p : TaskPlan) (g : CycleGroup) (tasks : List TaskKind) : TaskPlan :=
  ⟨p.groups ++ [(g, tasks)]⟩

/-- Whether a group of the plan runs a kind of task. -/
def contains (p : TaskPlan) (g : CycleGroup) (t : TaskKind) : Bool :=
  p.groups.any fun (g', ts) => g' == g && ts.contains t

/-- The number of planned tasks. -/
def taskCount (p : TaskPlan) : Nat := p.groups.foldl (fun n (_, ts) => n + ts.length) 0

/-- The plan with only the groups that `keep` accepts. -/
def retainGroups (p : TaskPlan) (keep : CycleGroup → Bool) : TaskPlan :=
  ⟨p.groups.filter fun (g, _) => keep g⟩

/-- The full names of the planned tasks, group by group. -/
def names (p : TaskPlan) : List String :=
  p.groups.flatMap fun (g, ts) => ts.map (taskName g)

end TaskPlan

/-- The description of one planned task. -/
structure TaskSpec where
  /-- The group the task belongs to. -/
  group : CycleGroup
  /-- Its kind. -/
  task : TaskKind
  /-- The cadence whose cycles it runs on. -/
  cadence : CadenceId
  /-- What it waits for. -/
  dependency : Option Dependency
  /-- Its variables, in order. -/
  env : List EnvBinding
  /-- The fan-out of a metatask. -/
  fanOut : Option FanOut
  deriving Repr

namespace TaskSpec

/-- The task's full name. -/
def name (s : TaskSpec) : String := taskName s.group s.task

/-- The same task waiting for a dependency, or for nothing. -/
def dependsOn (s : TaskSpec) (d : Option Dependency) : TaskSpec := { s with dependency := d }

/-- The same task on another cadence. -/
def onCadence (s : TaskSpec) (c : CadenceId) : TaskSpec := { s with cadence := c }

/-- The same task with one more variable. -/
def withEnv (s : TaskSpec) (b : EnvBinding) : TaskSpec := { s with env := s.env ++ [b] }

/-- The same task run as a metatask. -/
def fannedOut (s : TaskSpec) (f : FanOut) : TaskSpec := { s with fanOut := some f }

end TaskSpec

end CycledWorkflow
