import CycledWorkflow.Error
import CycledWorkflow.Text.Blank
import CycledWorkflow.Text.Case
import CycledWorkflow.Text.Numeral
import CycledWorkflow.Time.Moment
import CycledWorkflow.Time.Span
/-!
# Cadences

A cadence is a named recurrence: cycles from a start to an end moment, one interval apart. A
disabled cadence has no cycles. Two cycle groups run in an experiment: the data assimilation
group `gdas`, whose cadence is the main six-hourly one, and the forecast group `gfs`, whose
cadence is the secondary one; besides them there are the one-off `first` cadence and the
`gomg` cadence six hours behind the main one.

The secondary cadence runs 1, 2 or 4 times a day inside the main window. Its cycles fall on
boundaries: the anchor hour of each day plus whole intervals. The first cycle is the first
boundary at or after the main start plus the delay (a negative delay counting as none) plus
a lead-in; the last is the last boundary at or before the main end. When the first would come
after the main end, or lies outside the range of moments, the secondary cadence is disabled.
-/

namespace CycledWorkflow

/-- The two groups of cycles in an experiment. -/
inductive CycleGroup where
  /-- The data assimilation cycles. -/
  | gdas
  /-- The long forecast cycles. -/
  | gfs
  deriving DecidableEq, Repr

/-- The cadences a task can run on. -/
inductive CadenceId where
  /-- The first cycle only. -/
  | first
  /-- The main six-hourly cadence. -/
  | gdas
  /-- The secondary cadence of the forecast group. -/
  | gfs
  /-- The main cadence six hours later. -/
  | gomg
  deriving DecidableEq, Repr

namespace CycleGroup

/-- The label of a group, which is also the prefix of its task names. -/
def label : CycleGroup → String
  | .gdas => "gdas"
  | .gfs => "gfs"

/-- The cadence a group's tasks run on unless they say otherwise. -/
def defaultCadence : CycleGroup → CadenceId
  | .gdas => .gdas
  | .gfs => .gfs

/-- Reading a group label. -/
def parse (text : String) : Except String CycleGroup :=
  match Text.toLower (Text.trim text) with
  | "gdas" => .ok .gdas
  | "gfs" => .ok .gfs
  | other => .error ("invalid cycle group: " ++ other ++ " (expected \"gdas\" or \"gfs\")")

end CycleGroup

/-- The name of a cadence. -/
def CadenceId.name : CadenceId → String
  | .first => "first"
  | .gdas => "gdas"
  | .gfs => "gfs"
  | .gomg => "gomg"

/-- How many secondary cycles run per day. -/
inductive Frequency where
  | disabled
  | daily
  | twiceDaily
  | fourTimesDaily
  deriving DecidableEq, Repr

namespace Frequency

/-- The frequency of a count of cycles per day. -/
def ofCount (count : Int) : Outcome Frequency :=
  match count with
  | 0 => pure .disabled
  | 1 => pure .daily
  | 2 => pure .twiceDaily
  | 4 => pure .fourTimesDaily
  | other => throw (.invalidValue "gfs_cyc" (Text.intText other) "0, 1, 2 or 4 cycles per day")

/-- The number of cycles per day. -/
def perDay : Frequency → Nat
  | .disabled => 0
  | .daily => 1
  | .twiceDaily => 2
  | .fourTimesDaily => 4

/-- The name of a frequency. -/
def name : Frequency → String
  | .disabled => "disabled"
  | .daily => "daily"
  | .twiceDaily => "twice-daily"
  | .fourTimesDaily => "four-times-daily"

/-- The time between cycles, a whole day divided by the cycles per day. -/
def interval : Frequency → Option Span
  | .disabled => none
  | .daily => some Span.day
  | .twiceDaily => some Span.halfDay
  | .fourTimesDaily => some Span.sixHours

end Frequency

/-- A named recurrence of cycles. -/
structure Cadence where
  /-- Which cadence this is. -/
  id : CadenceId
  /-- The first cycle. -/
  start : Moment
  /-- The latest moment a cycle may fall on. -/
  finish : Moment
  /-- The time between cycles. -/
  interval : Span
  /-- Whether the cadence runs at all. -/
  valid : Bool
  deriving DecidableEq, Repr

namespace Cadence

/-- A running cadence. -/
def active (id : CadenceId) (start finish : Moment) (interval : Span) : Cadence :=
  { id, start, finish, interval, valid := true }

/-- A disabled cadence, pinned to one moment. -/
def disabled (id : CadenceId) (at_ : Moment) (interval : Span) : Cadence :=
  { id, start := at_, finish := at_, interval, valid := false }

/-- The number of cycles: every `start + k · interval` up to the end. -/
def cycleCount (c : Cadence) : Nat :=
  if c.valid ∧ 0 < c.interval.seconds ∧ c.start ≤ c.finish then
    ((c.finish.seconds - c.start.seconds) / c.interval.seconds).toNat + 1
  else 0

/-- The first `n` cycles. -/
def firstCycles (c : Cadence) (n : Nat) : List Moment :=
  (List.range (min n c.cycleCount)).map fun (k : Nat) => ⟨c.start.seconds + k * c.interval.seconds⟩

/-- All cycles, in order. -/
def cycles (c : Cadence) : List Moment := c.firstCycles c.cycleCount

/-- A cadence has as many cycles as it counts. -/
theorem cycles_length (c : Cadence) : c.cycles.length = c.cycleCount := by
  simp [cycles, firstCycles]

end Cadence

/-- Where secondary cycle boundaries fall and how long after the main start the first may
come. -/
structure Alignment where
  /-- The hour of day the boundaries are counted from. -/
  anchorHour : Nat
  /-- The least time between the main start (plus delay) and the first secondary cycle. -/
  leadIn : Span

/-- Boundaries at 00Z plus whole intervals, after a lead-in of one six-hour cycle. -/
def Alignment.synoptic : Alignment := ⟨0, Span.sixHours⟩

/-- The resolved secondary cadence and the frequency it runs at. -/
structure Secondary where
  /-- The frequency in force: disabled when the cadence was switched off. -/
  frequency : Frequency
  /-- The cadence. -/
  cadence : Cadence
  deriving Repr

/-- The seconds from the latest boundary at or before `t`. The day's anchor (or the previous
day's, when the anchor is later in the day than `t`) starts the count. -/
def secondsPastBoundary (t : Moment) (interval : Span) (anchorHour : Nat) : Int :=
  let anchor := t.atHour (anchorHour % 24)
  let anchor := if t < anchor then (anchor.addSpan? Span.day.neg).getD t else anchor
  let step := max interval.seconds 1
  (t.diffSeconds anchor) % step

/-- The first boundary at or after `t` (seconds dropped first), if it is in range. -/
def ceilToBoundary (t : Moment) (interval : Span) (anchorHour : Nat) : Option Moment :=
  let t := t.truncateSeconds
  match secondsPastBoundary t interval anchorHour with
  | 0 => some t
  | rem => (Span.ofSeconds? (interval.seconds - rem)).bind t.addSpan?

/-- The last boundary at or before `t`. -/
def floorToBoundary (t : Moment) (interval : Span) (anchorHour : Nat) : Moment :=
  ⟨t.seconds - secondsPastBoundary t interval anchorHour⟩

/-- The secondary cadence inside the main window from `start` to `finish`. -/
def resolveSecondary (start finish : Moment) (alignment : Alignment) (delay : Span)
    (frequency : Frequency) : Secondary :=
  match frequency.interval with
  | none => ⟨.disabled, Cadence.disabled .gfs finish Span.day⟩
  | some interval =>
    let delay := if delay.seconds < 0 then Span.zero else delay
    let first := (start.addSpan? delay).bind (·.addSpan? alignment.leadIn) |>.bind
      (ceilToBoundary · interval alignment.anchorHour)
    match first with
    | some s =>
      if s ≤ finish then
        ⟨frequency, Cadence.active .gfs s (floorToBoundary finish interval alignment.anchorHour)
          interval⟩
      else ⟨.disabled, Cadence.disabled .gfs finish interval⟩
    | none => ⟨.disabled, Cadence.disabled .gfs finish interval⟩

end CycledWorkflow
