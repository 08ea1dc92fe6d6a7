import CycledWorkflow.Calendar.Cadence
import CycledWorkflow.Catalog.Task
import CycledWorkflow.Config.Experiment
import CycledWorkflow.Json.Value
/-!
# Batch resources

The resources a task asks the batch scheduler for, read from its settings (the base scope
overlaid with its sections): the account, a wall time `wtime_<task>`, a core count
`npe_<task>` and cores per node `npe_node_<task>` (both positive), threads `nth_<task>`
(one by default) and optionally memory `memory_<task>`. The node count is the core count
divided by the cores per node, rounded up.

Tasks of the long-forecast group may override the wall time, core and thread counts with the
same key suffixed `_gfs`.

Service tasks run in the service queue. A scheduler with partitions instead puts every task
in the main queue and picks the partition: the service one or the batch one. Slurm jobs also
get `--export=NONE`.
-/

namespace CycledWorkflow

/-- What a task asks the batch scheduler for. -/
structure Resources where
  /-- The account charged. -/
  account : String
  /-- The wall-clock limit, as configured. -/
  walltime : String
  /-- The number of cores. -/
  cores : Nat
  /-- Cores per node. -/
  ppn : Nat
  /-- The number of nodes. -/
  nodes : Nat
  /-- Threads per process. -/
  threads : Nat
  /-- The memory request, if any. -/
  memory : Option String
  /-- Extra scheduler options, if any. -/
  native : Option String
  /-- The queue. -/
  queue : String
  /-- The partition, for schedulers that have them. -/
  partition : Option String
  deriving DecidableEq, Repr

/-- A field of a resource request that a workflow document may set. -/
inductive ResourceSlot where
  | account | walltime | nodes | cores | ppn | threads | memory | native | queue | partition
  deriving DecidableEq, Repr

namespace ResourceSlot

/-- Every slot, in document order. -/
def all : List ResourceSlot :=
  [.account, .walltime, .nodes, .cores, .ppn, .threads, .memory, .native, .queue, .partition]

/-- The lower-case name of a slot. -/
def name : ResourceSlot → String
  | .account => "account"
  | .walltime => "walltime"
  | .nodes => "nodes"
  | .cores => "cores"
  | .ppn => "ppn"
  | .threads => "threads"
  | .memory => "memory"
  | .native => "native"
  | .queue => "queue"
  | .partition => "partition"

end ResourceSlot

namespace Resources

/-- Whether a request sets a slot; only memory, options and partition may be missing. -/
def has (r : Resources) : ResourceSlot → Bool
  | .memory => r.memory.isSome
  | .native => r.native.isSome
  | .partition => r.partition.isSome
  | _ => true

/-- The slots a request sets, in document order. -/
def presentSlots (r : Resources) : List ResourceSlot := ResourceSlot.all.filter r.has

/-- The scheduler options of Slurm jobs. -/
def slurmNative : String := "--export=NONE"

/-- The key prefixes that the long-forecast group may override. -/
def groupOverrides : List String := ["wtime_", "npe_", "nth_"]

/-- The key read for a group: the `_gfs` override when the long-forecast group has one. -/
def key (scope : Config.Scope) (group : CycleGroup) (k : String) : String :=
  if groupOverrides.any (fun p => k.startsWith p) && group == .gfs && scope.contains (k ++ "_gfs") then
    k ++ "_gfs"
  else k

/-- A required text setting. -/
def requiredString (scope : Config.Scope) (heading : String) (group : CycleGroup) (k : String) :
    Outcome String :=
  let k := key scope group k
  match scope.string? k with
  | some s => pure s
  | none => throw (.missingKey heading k)

/-- A required positive count. -/
def positive (scope : Config.Scope) (heading task : String) (group : CycleGroup) (k : String) :
    Outcome Nat := do
  let k := key scope group k
  match ← scope.count? k with
  | none => throw (.missingKey heading k)
  | some 0 => throw (.invalidValue k "0" ("a positive count for task '" ++ task ++ "'"))
  | some n => return n

/-- The resources of a task of a group, under a scheduler. -/
def resolve (e : Experiment) (sched : Scheduler) (task : TaskKind) (group : CycleGroup) :
    Outcome Resources := do
  let scope := e.taskScope task.configSections
  let t := task.name
  let heading := "[task." ++ t ++ "]"
  let account ← requiredString scope heading group "ACCOUNT"
  let walltime ← requiredString scope heading group ("wtime_" ++ t)
  let cores ← positive scope heading t group ("npe_" ++ t)
  let ppn ← positive scope heading t group ("npe_node_" ++ t)
  let threads := (← scope.count? (key scope group ("nth_" ++ t))).getD 1
  let memory := scope.string? (key scope group ("memory_" ++ t))
  let service := task.isService
  let (queue, partition) ←
    if sched.usesPartitions then do
      let partition ← requiredString scope heading group
        (if service then "QUEUE_SERVICE" else "PARTITION_BATCH")
      pure (← requiredString scope heading group "QUEUE", some partition)
    else if service then pure (← requiredString scope heading group "QUEUE_SERVICE", none)
    else pure (← requiredString scope heading group "QUEUE", none)
  let native := if sched == .slurm then some slurmNative else none
  return { account, walltime, cores, ppn, nodes := (cores + ppn - 1) / ppn, threads, memory,
           native, queue, partition }

/-- The interchange form of a request; missing optional fields are left out. -/
def toJson (r : Resources) : Json.Value :=
  let opt := fun (k : String) (v : Option String) => match v with
    | some s => [(k, Json.Value.str s)]
    | none => []
  .obj ([("account", .str r.account), ("walltime", .str r.walltime), ("cores", .int r.cores),
    ("ppn", .int r.ppn), ("nodes", .int r.nodes), ("threads", .int r.threads)] ++
    opt "memory" r.memory ++ opt "native" r.native ++ [("queue", .str r.queue)] ++
    opt "partition" r.partition)

end Resources

end CycledWorkflow
