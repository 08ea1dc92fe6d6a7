import CycledWorkflow.Catalog.Build
import CycledWorkflow.Graph.Validate
/-!
# Assembling a workflow graph

An experiment compiles to a graph in four steps: derive its calendar, describe every planned
task, ask for each task's resources, and check the result.

* The settings come from `CYCLETHROTTLE`, `TASKTHROTTLE` and `MAXTRIES` (at least one attempt).
* The bindings are the experiment's name `PSLOT` (required), the root directories that are
  set, the job script directory `BASE_JOB` (by default under the home directory), the run
  environment and whether tape archiving is on.
* A task becomes a node running `<kind>.sh` from the job script directory, named by the task
  (a metatask's member adds its variable, `gdaspost${grp}`), logged under the cycle's log
  directory; it writes out only the resource fields its request sets.
* Entries are grouped by group, groups in order of first appearance.
-/

namespace CycledWorkflow

namespace Graph

/-- The root directories bound when they are set. -/
def rootKeys : List String := ["ROTDIR", "ICSDIR", "DMPDIR", "EXPDIR", "HOMEgfs"]

/-- The engine settings of a base scope. -/
def settingsOf (base : Config.Scope) : Outcome Settings := do
  let defaults : Settings := {}
  let cycleThrottle := (← base.count? "CYCLETHROTTLE").getD defaults.cycleThrottle
  let taskThrottle := (← base.count? "TASKTHROTTLE").getD defaults.taskThrottle
  let maxTries := (← base.count? "MAXTRIES").getD defaults.maxTries
  if maxTries = 0 then throw (.invalidValue "MAXTRIES" "0" "at least one attempt")
  return { cycleThrottle, taskThrottle, maxTries }

/-- Binding a name in a name-ordered list, replacing an earlier value. -/
def withBinding (name value : String) : List (String × String) → List (String × String)
  | [] => [(name, value)]
  | (n, v) :: rest =>
    if name < n then (name, value) :: (n, v) :: rest
    else if name = n then (name, value) :: rest
    else (n, v) :: withBinding name value rest

/-- The bindings of a base scope, in name order. -/
def bindingsOf (base : Config.Scope) : Outcome (List (String × String)) := do
  let pslot ← match base.string? "PSLOT" with
    | some s => pure s
    | none => throw (.missingKey "[base]" "PSLOT")
  let out := withBinding "PSLOT" pslot []
  let out := rootKeys.foldl (fun out k =>
    match base.string? k with
    | some v => withBinding k v out
    | none => out) out
  let out := withBinding "JOBS_DIR" ((base.string? "BASE_JOB").getD "${HOMEgfs}/jobs/rocoto") out
  let out := withBinding "RUN_ENVIR" (base.stringOr "RUN_ENVIR" "emc") out
  let archive ← base.flag "HPSSARCH" false
  return withBinding "ARCHIVE_TO_HPSS" (if archive then "YES" else "NO") out

/-- The node of a task, named `name`. -/
def nodeOf (s : TaskSpec) (name : String) (r : Resources) (slots : List ResourceSlot)
    (maxTries : Nat) : TaskNode :=
  { name, task := s.task, group := s.group, cadence := s.cadence,
    command := "${JOBS_DIR}/" ++ s.task.name ++ ".sh",
    jobName := "${PSLOT}_" ++ name ++ "_${HH}",
    log := "${ROTDIR}/logs/${CDATE}/" ++ name ++ ".log",
    maxTries, env := s.env, dependency := s.dependency, resources := r, slots }

/-- The entry of a described task with its resources. -/
def entryOf (s : TaskSpec) (r : Resources) (maxTries : Nat) : Entry :=
  match s.fanOut with
  | some f => .metatask f (nodeOf s (s.name ++ placeholderText f.var) r r.presentSlots maxTries)
  | none => .task (nodeOf s s.name r r.presentSlots maxTries)

/-- Adding an entry to the groups, at the end of its group's entries. -/
def addToGroup (g : CycleGroup) (e : Entry) : List EntryGroup → List EntryGroup
  | [] => [⟨g, [e]⟩]
  | grp :: rest =>
    if grp.group = g then ⟨grp.group, grp.entries ++ [e]⟩ :: rest
    else grp :: addToGroup g e rest

/-- Entries grouped by group, groups in order of first appearance. -/
def groupEntries (es : List (CycleGroup × Entry)) : List EntryGroup :=
  es.foldl (fun gs (g, e) => addToGroup g e gs) []

/-- The graph of a calendar and its described tasks. -/
def assemble (cal : Calendar) (specs : List TaskSpec) (generatedAt : String) : Outcome Graph := do
  let e := cal.experiment
  let sched ← Config.schedulerOf e.base
  let settings ← settingsOf e.base
  let bindings ← bindingsOf e.base
  let pslot := ((bindings.find? (·.1 == "PSLOT")).map (·.2)).getD ""
  let entries ← specs.mapM fun s => do
    let r ← Resources.resolve e sched s.task s.group
    return (s.group, entryOf s r settings.maxTries)
  let g : Graph :=
    { mode := e.mode, generatedAt, pslot, bindings, settings,
      cadences := cal.cadences.filter (·.valid), groups := groupEntries entries }
  g.validate
  return g

/-- The graph of an experiment. -/
def compile (e : Experiment) (generatedAt : String) : Outcome Graph := do
  let cal ← Calendar.derive e
  let catalog ← Catalog.ofCalendar cal
  let specs ← catalog.build
  assemble cal specs generatedAt

end Graph

end CycledWorkflow
