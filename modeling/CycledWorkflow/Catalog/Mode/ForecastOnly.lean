import CycledWorkflow.Catalog.Products
/-!
# Forecast-only experiments

A forecast-only experiment runs one group, the calendar's primary one: initial conditions
are staged (or coupled initial conditions set up), the forecast runs, and its products and
archive follow. With observation-minus-forecast statistics on, their tasks run on the `gomg`
cadence, six hours behind the forecasts, each waiting for the previous cycle's forecast.

A cold start waits for initial conditions in any of the layouts they come in; a warm start
after fetching them waits for the fetch alone.
-/

namespace CycledWorkflow

namespace ForecastOnly

open TaskKind (listIf)

/-- The tasks of a forecast-only experiment. -/
def tasks (f : Features) : List TaskKind :=
  let analinc := f.doAnalinc && f.doOmf
  let post := f.doAtm && f.doPost
  (if f.coupled then [.coupledIc]
   else listIf f.doHpssarch [.getic] ++ listIf analinc [.getic4omg] ++ listIf (!f.warmStart) [.init]) ++
  listIf f.doAero [.aerosolInit] ++
  listIf f.doWave [.waveinit] ++
  [.fcst] ++
  listIf f.doOmf ([.prep] ++ listIf analinc [.analinc] ++ [.gomg, .analdiag]) ++
  listIf post [.post] ++
  listIf f.coupled [.ocnpost] ++
  listIf (post && f.doMetp) [.vrfy, .metp] ++
  listIf f.doWave (listIf f.doWaveBnd [.wavepostbndpnt, .wavepostbndpntbll] ++
      [.wavepostsbs, .wavepostpnt] ++ listIf f.doGempak [.wavegempak] ++
      listIf f.doAwips [.waveawipsbulls, .waveawipsgridded]) ++
  listIf f.doBufrsnd [.postsnd] ++
  listIf f.doGempak [.gempak] ++
  listIf f.doAwips [.awips] ++
  listIf f.doWafs [.wafs, .wafsgcip, .wafsgrib2, .wafsgrib20p25, .wafsblending, .wafsblending0p25] ++
  [.arch] ++
  listIf f.doOmf [.archomg]

/-- The plan of a forecast-only experiment, in the calendar's primary group. -/
def plan (f : Features) (primary : CycleGroup) : TaskPlan :=
  ({} : TaskPlan).withGroup primary (tasks f)

/-- The surface file of the forecast's input. -/
def sfcData (run : String) : String := Template.rotdirPath run "INPUT/sfc_data.tile6.nc"

/-- The surface analysis restart. -/
def sfcanlData (run : String) : String :=
  Template.rotdirPath run "RESTART/${PDY}.${HH}0000.sfcanl_data.tile6.nc"

/-- Initial conditions in any of the layouts they come in. -/
def initialConditions (icdump : String) : Option Dependency :=
  let dir := "${ICSDIR}/" ++ icdump ++ ".${PDY}/${HH}"
  (Prerequisites.empty.data (.new (dir ++ "/" ++ icdump ++ ".t${HH}z.sanl")))
    |>.data (.new (dir ++ "/" ++ icdump ++ ".t${HH}z.atmanl.nemsio"))
    |>.data (.new (dir ++ "/" ++ icdump ++ ".t${HH}z.atmanl.nc"))
    |>.data (.new (dir ++ "/atmos/" ++ icdump ++ ".t${HH}z.atmanl.nc"))
    |>.data (.new (dir ++ "/atmos/RESTART/${PDY}.${HH}0000.sfcanl_data.tile6.nc"))
    |>.any

/-- The description of a task of a forecast-only experiment. -/
def describe (c : Context) (t : TaskKind) : Outcome TaskSpec := do
  let prev := Span.previousCycle
  let run := c.group.label
  let spec := c.spec t
  let previousForecast : Dependency := .peerAt (c.name .fcst) prev
  let peerOf := fun (k : TaskKind) => some (Dependency.peer (c.name k))
  match t with
  | .coupledIc => return spec
  | .getic =>
    return spec.dependsOn <|
      (Prerequisites.empty.data (.new (sfcData run))).data (.new (sfcanlData run)) |>.none
  | .getic4omg => return (spec.dependsOn (some previousForecast)).onCadence .gomg
  | .init =>
    return spec.dependsOn <|
      (Prerequisites.empty.addOpt (initialConditions c.features.icdump))
        |>.taskIf (c.has .getic) (c.name .getic)
        |>.all
  | .aerosolInit | .waveinit =>
    let predecessor := if c.has .coupledIc then TaskKind.coupledIc else .init
    return spec.dependsOn (Prerequisites.empty.taskIf (c.has predecessor) (c.name predecessor)).all
  | .fcst =>
    let inputs :=
      if c.features.warmStart && c.has .getic then some (Dependency.peer (c.name .getic))
      else (Prerequisites.empty.data (.new (sfcData run))).data (.new (sfcanlData run)) |>.any
    return spec.dependsOn <|
      (Prerequisites.empty.taskIf (c.has .coupledIc) (c.name .coupledIc))
        |>.addOpt inputs
        |>.taskIf (c.has .aerosolInit) (c.name .aerosolInit)
        |>.taskIf (c.has .waveinit) (c.name .waveinit)
        |>.all
  | .prep => return (spec.dependsOn (some previousForecast)).onCadence .gomg
  | .analinc =>
    let icdump := c.features.icdump
    let dep := (Prerequisites.empty.data
        (.new ("${ICSDIR}/" ++ icdump ++ ".${PDY}/${HH}/atmos/" ++ icdump ++ ".t${HH}z.atmanl.nc")))
      |>.data (((DataCheck.new (Template.rotdirFile run "logf009.txt")).atOffset prev).withMinAge
        Staging.settleAge)
      |>.add previousForecast
      |>.all
    return (spec.dependsOn dep).onCadence .gomg
  | .gomg => return (spec.dependsOn (peerOf .prep)).onCadence .gomg
  | .analdiag => return (spec.dependsOn (peerOf .gomg)).onCadence .gomg
  | .archomg => return (spec.dependsOn (peerOf .analdiag)).onCadence .gomg
  | .post => Products.post c false
  | .vrfy => return Products.vrfy c
  | .metp => return Products.metp c
  | .arch =>
    let dep :=
      if c.has .post then
        (Prerequisites.empty.metatask (c.name .post))
          |>.taskIf (c.has .vrfy) (c.name .vrfy)
          |>.add Products.archiveGate
          |>.all
      else (Prerequisites.empty.task (c.name .fcst)).all
    return spec.dependsOn dep
  | other =>
    match Products.product c other with
    | some s => return s
    | none =>
      throw (.config ("task '" ++ other.name ++ "' is not part of forecast-only experiments"))

end ForecastOnly

end CycledWorkflow
