import CycledWorkflow.Calendar.Cadence
/-!
# Task environments

A task runs with a list of variable bindings. A binding holds either fixed text (which may
name a variable of the workflow engine, `${ROTDIR}`) or a field of a cycle time: the full
`YYYYMMDDHH`, the date `YYYYMMDD` or the hour `HH`, of the task's own cycle or of the cycle a
span away.

Every task sees its run environment, the home and experiment directories, and its cycle;
tasks that look back one cycle see the previous cycle as well.
-/

namespace CycledWorkflow

/-- A field of a cycle time. -/
inductive CycleFormat where
  | ymdh | ymd | h
  deriving DecidableEq, Repr

/-- The lower-case name of a cycle field. -/
def CycleFormat.name : CycleFormat → String
  | .ymdh => "ymdh"
  | .ymd => "ymd"
  | .h => "h"

/-- The value a variable is bound to. -/
inductive EnvValue where
  /-- Fixed text. -/
  | text (value : String)
  /-- A field of the cycle time shifted by a span, or of the task's own cycle. -/
  | cycleTime (format : CycleFormat) (offset : Option Span)
  deriving DecidableEq, Repr

/-- A variable and its value. -/
structure EnvBinding where
  /-- The variable's name. -/
  name : String
  /-- Its value. -/
  value : EnvValue
  deriving DecidableEq, Repr

namespace EnvBinding

/-- A variable bound to fixed text. -/
def text (name value : String) : EnvBinding := ⟨name, .text value⟩

/-- A variable bound to a cycle field. -/
def cycle (name : String) (format : CycleFormat) (offset : Option Span) : EnvBinding :=
  ⟨name, .cycleTime format offset⟩

/-- A variable bound to the value of a fan-out variable, `${var}`. -/
def fanOutVar (name var : String) : EnvBinding := text name ("$\x7b" ++ var ++ "\x7d")

end EnvBinding

/-- The variables every task of a group sees. -/
def cycleBindings (runEnvir : String) (group : CycleGroup) : List EnvBinding :=
  [.text "RUN_ENVIR" runEnvir,
   .text "HOMEgfs" "${HOMEgfs}",
   .text "EXPDIR" "${EXPDIR}",
   .cycle "CDATE" .ymdh none,
   .text "CDUMP" group.label,
   .cycle "PDY" .ymd none,
   .cycle "cyc" .h none]

/-- The variables of the cycle one interval back. -/
def previousCycleBindings (interval : Span) : List EnvBinding :=
  let back := some interval.neg
  [.cycle "GDATE" .ymdh back,
   .text "GDUMP" "gdas",
   .cycle "gPDY" .ymd back,
   .cycle "gcyc" .h back]

end CycledWorkflow
