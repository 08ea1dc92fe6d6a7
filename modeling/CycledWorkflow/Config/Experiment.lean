import CycledWorkflow.Config.Scope
import CycledWorkflow.Error
import CycledWorkflow.Text.Blank
import CycledWorkflow.Text.Case
import CycledWorkflow.Time.Moment
/-!
# Experiments

An experiment is a configuration that passed its first checks: the `[base]` scope and the
per-task sections, together with the experiment's mode and its window from `SDATE` to
`EDATE`. The checks run in a fixed order, and the first that fails is reported:

1. the mode: `MODE` if set, otherwise ensemble regridding when `CYCLE_FREQ` is set;
2. the window: `SDATE`, then `EDATE`, each a timestamp, the start not after the end;
3. the batch scheduler: `SCHEDULER` if set, otherwise the one known for `machine`.

Names of modes, schedulers and machines are matched after trimming and case folding; a mode
name may use `_` for `-`.
-/

namespace CycledWorkflow

/-- The kind of experiment. -/
inductive Mode where
  /-- Cycled data assimilation with forecasts. -/
  | cycled
  /-- Forecasts from prepared initial conditions. -/
  | forecastOnly
  /-- Forecasts replaying an existing analysis. -/
  | replay
  /-- Observation-minus-forecast statistics. -/
  | omf
  /-- Regridding of an ensemble. -/
  | ensRegrid
  deriving DecidableEq, Repr

namespace Mode

/-- The name of a mode. -/
def name : Mode → String
  | .cycled => "cycled"
  | .forecastOnly => "forecast-only"
  | .replay => "replay"
  | .omf => "omf"
  | .ensRegrid => "ens-regrid"

/-- Reading a mode name; the error carries the name as normalized for matching. -/
def parse (text : String) : Except String Mode :=
  let key := String.ofList ((Text.toLower (Text.trim text)).toList.map
    fun c => if c = '_' then '-' else c)
  match key with
  | "cycled" => .ok .cycled
  | "forecast-only" | "forecastonly" => .ok .forecastOnly
  | "replay" => .ok .replay
  | "omf" => .ok .omf
  | "ens-regrid" | "ensregrid" => .ok .ensRegrid
  | other => .error other

end Mode

/-- The family of batch scheduler that runs the jobs. -/
inductive Scheduler where
  | slurm
  | pbsPro
  | lsf
  | cobalt
  deriving DecidableEq, Repr

namespace Scheduler

/-- The name of a scheduler family. -/
def name : Scheduler → String
  | .slurm => "slurm"
  | .pbsPro => "pbspro"
  | .lsf => "lsf"
  | .cobalt => "cobalt"

/-- Reading a scheduler name. -/
def parse (text : String) : Except String Scheduler :=
  match Text.toLower (Text.trim text) with
  | "slurm" => .ok .slurm
  | "pbspro" | "pbs" => .ok .pbsPro
  | "lsf" | "lsfcray" => .ok .lsf
  | "cobalt" => .ok .cobalt
  | other => .error ("invalid scheduler: " ++ other ++ " (expected slurm, pbspro, lsf or cobalt)")

/-- The scheduler family of a known machine. -/
def ofMachine (machine : String) : Option Scheduler :=
  match Text.toUpper (Text.trim machine) with
  | "HERA" | "ORION" | "JET" | "S4" | "GAEA" => some .slurm
  | "WCOSS2" => some .pbsPro
  | "WCOSS_DELL_P3" | "WCOSS_C" => some .lsf
  | _ => none

/-- Whether jobs are placed in partitions as well as queues. -/
def usesPartitions : Scheduler → Bool
  | .slurm => true
  | _ => false

end Scheduler

namespace Config

/-- A configuration as read, before any check: the base scope and the task sections in
increasing order of their names. -/
structure Document where
  /-- The `[base]` scope. -/
  base : Scope
  /-- The task sections, in increasing order of name. -/
  sections : List (String × Scope)
  deriving Repr

/-- Adding a section to a name-ordered list, replacing one of the same name. -/
def insertSection (name : String) (s : Scope) : List (String × Scope) → List (String × Scope)
  | [] => [(name, s)]
  | (n, t) :: rest =>
    if name < n then (name, s) :: (n, t) :: rest
    else if name = n then (name, s) :: rest
    else (n, t) :: insertSection name s rest

/-- The scheduler family a base scope asks for. -/
def schedulerOf (base : Scope) : Outcome Scheduler :=
  match base.string? "SCHEDULER" with
  | some text =>
    match Scheduler.parse text with
    | .ok s => pure s
    | .error _ => throw (.invalidValue "SCHEDULER" text "slurm, pbspro, lsf or cobalt")
  | none =>
    match base.string? "machine" with
    | some machine =>
      match Scheduler.ofMachine machine with
      | some s => pure s
      | none => throw (.config ("no scheduler known for machine '" ++ machine ++
          "'; set SCHEDULER in [base]"))
    | none => throw (.config "[base] must set SCHEDULER or machine")

/-- The mode a base scope asks for. -/
def modeOf (base : Scope) : Outcome Mode :=
  match base.string? "MODE" with
  | some text =>
    match Mode.parse text with
    | .ok m => pure m
    | .error normalized => throw (.unknownMode normalized)
  | none => if base.contains "CYCLE_FREQ" then pure .ensRegrid
    else throw (.missingKey "[base]" "MODE")

/-- The window a base scope asks for. -/
def windowOf (base : Scope) : Outcome (Moment × Moment) := do
  let some sdate ← base.timestamp? "SDATE" | throw (.missingKey "[base]" "SDATE")
  let some edate ← base.timestamp? "EDATE" | throw (.missingKey "[base]" "EDATE")
  if edate < sdate then
    throw (.config ("SDATE (" ++ sdate.ymdh ++ ") must not be later than EDATE (" ++
      edate.ymdh ++ ")"))
  return (sdate, edate)

end Config

/-- A configuration that passed its first checks. -/
structure Experiment where
  /-- The kind of experiment. -/
  mode : Mode
  /-- The `[base]` scope. -/
  base : Config.Scope
  /-- The task sections, in increasing order of name. -/
  sections : List (String × Config.Scope)
  /-- The first cycle. -/
  sdate : Moment
  /-- The last cycle. -/
  edate : Moment
  deriving Repr

namespace Experiment

/-- Checking a configuration: mode, window and scheduler, in that order. -/
def ofDocument (doc : Config.Document) : Outcome Experiment := do
  let mode ← Config.modeOf doc.base
  let (sdate, edate) ← Config.windowOf doc.base
  let _ ← Config.schedulerOf doc.base
  return { mode, base := doc.base, sections := doc.sections, sdate, edate }

/-- The names of the task sections, in increasing order. -/
def sectionNames (e : Experiment) : List String := e.sections.map Prod.fst

/-- The scope a task sees: the base with each named section that exists merged over it, in
the order the names are given. -/
def taskScope (e : Experiment) (names : List String) : Config.Scope :=
  names.foldl (fun acc n =>
    match e.sections.lookup n with
    | some overlay => acc.merge overlay
    | none => acc) e.base

/-- The same experiment with another base scope. -/
def withBase (e : Experiment) (base : Config.Scope) : Experiment := { e with base }

end Experiment

end CycledWorkflow
