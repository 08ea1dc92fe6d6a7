import CycledWorkflow.Calendar.Cadence
import CycledWorkflow.Config.Experiment
import CycledWorkflow.Config.Scope
/-!
# The cycle calendar of an experiment

Each mode lays out its cadences and adds derived keys to the base scope:

* cycled and replay experiments run the main cadence over the window (replay adds a `first`
  cadence at the start) and a secondary cadence of `gfs_cyc` cycles a day after `gfs_delay`;
  the derived keys record the resolved frequency, the secondary interval and window, and the
  longest forecast of each synoptic hour;
* forecast-only experiments run one cadence for their group, every `interval_days` days or
  `gfs_cyc` times a day (else six-hourly), plus the `gomg` cadence six hours later when
  observation-minus-forecast tasks are on;
* observation-minus-forecast experiments run the main cadence every `interval_days` days or
  six hours;
* ensemble regridding runs the main cadence `CYCLE_FREQ` times a day.

Every mode records its primary group under `CDUMP`.
-/

namespace CycledWorkflow

/-- The forecast length used for a synoptic hour that sets none. -/
def defaultFhmaxGfs : Int := 120

/-- The longest forecast over the four synoptic hours: each `FHMAX_GFS_hh`, defaulting to
`FHMAX_GFS_00`, which defaults to 120 hours. -/
def fhmaxGfsLongest (scope : Config.Scope) : Outcome Int := do
  let fallback ← scope.intOr "FHMAX_GFS_00" defaultFhmaxGfs
  let mut longest := fallback
  for hh in ["00", "06", "12", "18"] do
    longest := max longest (← scope.intOr ("FHMAX_GFS_" ++ hh) fallback)
  return longest

/-- The cycles and derived configuration of an experiment. -/
structure Calendar where
  /-- The group whose cadence is the main one. -/
  primaryGroup : CycleGroup
  /-- The running cadences, in the order they were laid out. -/
  cadences : List Cadence
  /-- The secondary cadence, for cycled and replay experiments. -/
  secondary : Option Secondary
  /-- The experiment with the derived keys added to its base. -/
  experiment : Experiment
  deriving Repr

namespace Calendar

/-- A positive `interval_days` as a span. -/
def intervalDays (base : Config.Scope) : Outcome (Option Span) := do
  match ← base.int? "interval_days" with
  | some days =>
    if 0 < days then
      match Span.ofDays? days with
      | some d => return some d
      | none => throw (.invalidValue "interval_days" (Text.intText days)
          "a representable number of days")
    else return none
  | none => return none

/-- The derived keys of a resolved secondary cadence. -/
def secondaryEntries (base : Config.Scope) (resolved : Secondary) :
    Outcome (List (String × Config.Value)) := do
  let c := resolved.cadence
  let mut out : List (String × Config.Value) :=
    [("gfs_cyc", .int resolved.frequency.perDay), ("INTERVAL_GFS", .text c.interval.hms)]
  if c.valid then
    out := out ++ [("SDATE_GFS", .text c.start.ymdh), ("EDATE_GFS", .text c.finish.ymdh)]
  let fallback ← base.intOr "FHMAX_GFS_00" defaultFhmaxGfs
  for hh in ["00", "06", "12", "18"] do
    let key := "FHMAX_GFS_" ++ hh
    out := out ++ [(key, .int (← base.intOr key fallback))]
  return out

/-- The laid-out cadences, secondary cadence, derived keys and primary group of a mode. -/
def layout (e : Experiment) :
    Outcome (List Cadence × Option Secondary × List (String × Config.Value) × CycleGroup) := do
  let base := e.base
  match e.mode with
  | .cycled | .replay =>
    let first := if e.mode = .replay then [Cadence.active .first e.sdate e.sdate Span.sixHours]
      else []
    let main := Cadence.active .gdas e.sdate e.edate Span.sixHours
    let requested ← Frequency.ofCount (← base.intOr "gfs_cyc" 0)
    let delay := (← base.duration? "gfs_delay").getD Span.zero
    if delay.seconds < 0 then
      throw (.invalidValue "gfs_delay" delay.hms "a non-negative delay")
    let resolved := resolveSecondary e.sdate e.edate .synoptic delay requested
    let extra ← secondaryEntries base resolved
    let secondaryList := if resolved.cadence.valid then [resolved.cadence] else []
    return (first ++ [main] ++ secondaryList, some resolved, extra, .gdas)
  | .forecastOnly =>
    let doGomg ← base.flag "DO_OmF" false
    let group ← match base.string? "CDUMP" with
      | some s =>
        match CycleGroup.parse s with
        | .ok g => pure g
        | .error _ => throw (.invalidValue "CDUMP" s "gdas or gfs")
      | none => pure (if doGomg then CycleGroup.gdas else CycleGroup.gfs)
    let interval ← match ← intervalDays base with
      | some d => pure d
      | none => do
        let f ← Frequency.ofCount (← base.intOr "gfs_cyc" 0)
        pure (f.interval.getD Span.sixHours)
    let main := Cadence.active group.defaultCadence e.sdate e.edate interval
    let later (t : Moment) : Moment := ⟨t.seconds + Span.sixHours.seconds⟩
    let gomg := if doGomg then [Cadence.active .gomg (later e.sdate) (later e.edate) interval]
      else []
    return ([main] ++ gomg, none, [("INTERVAL", .text interval.hms)], group)
  | .omf =>
    let interval := (← intervalDays base).getD Span.sixHours
    return ([Cadence.active .gdas e.sdate e.edate interval], none,
      [("INTERVAL", .text interval.hms)], .gdas)
  | .ensRegrid =>
    let some count ← base.int? "CYCLE_FREQ" | throw (.missingKey "[base]" "CYCLE_FREQ")
    let interval ← match Frequency.ofCount count with
      | .ok f =>
        match f.interval with
        | some d => pure d
        | none => throw (.invalidValue "CYCLE_FREQ" (Text.intText count) "1, 2 or 4")
      | .error _ => throw (.invalidValue "CYCLE_FREQ" (Text.intText count) "1, 2 or 4")
    return ([Cadence.active .gdas e.sdate e.edate interval], none,
      [("INTERVAL", .text interval.hms)], .gdas)

/-- The calendar of an experiment. -/
def derive (e : Experiment) : Outcome Calendar := do
  let (cadences, secondary, extra, group) ← layout e
  let base := e.base.extend (extra ++ [("CDUMP", .text group.label)])
  return { primaryGroup := group, cadences, secondary, experiment := e.withBase base }

/-- The cadence of an id, if laid out. -/
def cadence? (c : Calendar) (id : CadenceId) : Option Cadence := c.cadences.find? (·.id == id)

/-- Whether the cadence of an id is laid out and running. -/
def isValid (c : Calendar) (id : CadenceId) : Bool :=
  match c.cadence? id with
  | some cad => cad.valid
  | none => false

/-- The interval of the cadence of an id. -/
def interval? (c : Calendar) (id : CadenceId) : Option Span := (c.cadence? id).map (·.interval)

/-- The derived base scope. -/
def base (c : Calendar) : Config.Scope := c.experiment.base

end Calendar

end CycledWorkflow
