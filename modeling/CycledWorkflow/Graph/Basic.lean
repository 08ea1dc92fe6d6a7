import CycledWorkflow.Calendar.Cadence
import CycledWorkflow.Catalog.Plan
import CycledWorkflow.Config.Experiment
import CycledWorkflow.Resources
/-!
# Workflow graphs

A workflow graph is what the workflow engine runs: global settings, variable bindings shared
by every job, the running cadences, and the groups of entries. An entry is a task node (the
job script, job name, log, variables, dependency and resources of one task) or a metatask,
which runs its member task node once per value of its variable.
-/

namespace CycledWorkflow

/-- How the workflow engine paces an experiment. -/
structure Settings where
  /-- Cycles that may run at once. -/
  cycleThrottle : Nat := 6
  /-- Tasks that may run at once. -/
  taskThrottle : Nat := 25
  /-- Attempts per task. -/
  maxTries : Nat := 2
  deriving DecidableEq, Repr

/-- One job of the graph. -/
structure TaskNode where
  /-- The job's name. -/
  name : String
  /-- Its kind. -/
  task : TaskKind
  /-- Its group. -/
  group : CycleGroup
  /-- The cadence it runs on. -/
  cadence : CadenceId
  /-- The script it runs. -/
  command : String
  /-- The batch job name. -/
  jobName : String
  /-- The log file. -/
  log : String
  /-- Attempts allowed. -/
  maxTries : Nat
  /-- Its variables. -/
  env : List EnvBinding
  /-- What it waits for. -/
  dependency : Option Dependency
  /-- What it asks the batch scheduler for. -/
  resources : Resources
  /-- The resource fields written out for it. -/
  slots : List ResourceSlot
  deriving Repr

/-- An entry of a group: a task node, or a metatask running its member once per value. -/
inductive Entry where
  | task (node : TaskNode)
  | metatask (fan : FanOut) (node : TaskNode)
  deriving Repr

namespace Entry

/-- The name others refer to an entry by: the task's, or the metatask's. -/
def name : Entry → String
  | .task n => n.name
  | .metatask f _ => f.metatask

/-- The task node of an entry, the member of a metatask. -/
def node : Entry → TaskNode
  | .task n | .metatask _ n => n

/-- Whether an entry is a metatask. -/
def isMetatask : Entry → Bool
  | .task _ => false
  | .metatask _ _ => true

/-- The same entry with its task node changed. -/
def mapNode (f : TaskNode → TaskNode) : Entry → Entry
  | .task n => .task (f n)
  | .metatask fan n => .metatask fan (f n)

end Entry

/-- The entries of one group, in order. -/
structure EntryGroup where
  /-- The group. -/
  group : CycleGroup
  /-- Its entries. -/
  entries : List Entry
  deriving Repr

/-- A workflow graph. -/
structure Graph where
  /-- The experiment's mode. -/
  mode : Mode
  /-- When the graph was made, as written in it. -/
  generatedAt : String
  /-- The experiment's name. -/
  pslot : String
  /-- Variables shared by every job, in increasing order of name. -/
  bindings : List (String × String)
  /-- Engine settings. -/
  settings : Settings
  /-- The running cadences. -/
  cadences : List Cadence
  /-- The groups of entries, in order. -/
  groups : List EntryGroup
  deriving Repr

namespace Graph

/-- Every entry, group by group. -/
def entries (g : Graph) : List Entry := g.groups.flatMap (·.entries)

/-- The names of the entries, group by group. -/
def names (g : Graph) : List String := g.entries.map Entry.name

/-- The number of entries. -/
def entryCount (g : Graph) : Nat := g.groups.foldl (fun n grp => n + grp.entries.length) 0

end Graph

end CycledWorkflow
