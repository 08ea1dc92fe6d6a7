import CycledWorkflow.Catalog.Products
/-!
# Replay experiments

A replay experiment reruns forecasts from fetched analyses. The data-assimilation group
fetches initial conditions, optionally prepares observations, adds an analysis increment
(variant 2), cycles the surface and runs the forecast; the long-forecast group runs its
forecast with post-processing and verification. Both archive.

Variant 2 forecasts start from the increment, or on the first cycle from the restart alone;
with surface cycling on, its initialization runs on the first cycle only.
-/

namespace CycledWorkflow

namespace Replay

open TaskKind (listIf)

/-- How old a surface restart must be before it is trusted: two minutes. -/
def surfaceRestartAge : Span := ⟨120, by decide⟩

/-- The tasks of the data-assimilation group. -/
def gdasTasks (f : Features) : List TaskKind :=
  [.getic, .init] ++ listIf f.doOmf [.prep] ++
    listIf (f.replay == 2) (listIf f.doChgresFcst [.echgres] ++ [.analinc]) ++
    listIf f.doGcycle ([.sfcanl] ++ listIf f.doGldas [.gldas]) ++
    [.fcst] ++
    listIf ((f.doGcycle && f.doGldas) || f.gdaspost) [.post] ++
    listIf f.doOmf [.gomg, .analdiag, .archomg] ++
    [.arch]

/-- The tasks of the long-forecast group. -/
def gfsTasks (f : Features) : List TaskKind :=
  [.fcst] ++ listIf f.doPost ([.post] ++ listIf f.doVrfy [.vrfy] ++ listIf f.doMetp [.metp]) ++
    [.arch]

/-- The plan of a replay experiment. -/
def plan (f : Features) : TaskPlan :=
  ({} : TaskPlan).withGroup .gdas (gdasTasks f) |>.withGroup .gfs (gfsTasks f)

/-- What the forecast waits for: its start files, and the surface task of the
data-assimilation group (or the first cycle). -/
def forecastInputs (c : Context) : Option Dependency :=
  let prev := Span.previousCycle
  let surface := ([TaskKind.gldas, .sfcanl, .getic].find? (c.hasIn .gdas)).map
    fun k => Dependency.peer (taskName .gdas k)
  let ready := (Prerequisites.empty.addOpt surface).cycleMissing prev |>.any
  let restart := DataCheck.new (Template.rotdirPath "gdas" "INPUT/sfc_data.tile6.nc")
  let start :=
    if c.features.replay = 2 then
      (Prerequisites.empty.data (.new (Template.rotdirFile "gdas" "atminc.nc")))
        |>.add (.allOf [.cycleExists prev true, .artifact restart])
        |>.any
    else some (.artifact restart)
  (Prerequisites.empty.addOpt start).addOpt ready |>.all

/-- The description of a task of a replay experiment. -/
def describe (c : Context) (t : TaskKind) : Outcome TaskSpec := do
  let prev := Span.previousCycle
  let f := c.features
  let spec := c.spec t
  let getic : Dependency := .peer (taskName .gdas .getic)
  let peerOf := fun (k : TaskKind) => some (Dependency.peer (c.name k))
  match t with
  | .getic => return Staging.getic c
  | .init =>
    let s := spec.dependsOn (some getic)
    return if f.replay = 2 && f.rungcycle then s.onCadence .first else s
  | .prep =>
    return spec.dependsOn <|
      (Prerequisites.empty.data (Staging.restartCoupler "gdas" Staging.settleAge))
        |>.data (Staging.dumpStatus c)
        |>.add getic
        |>.all
  | .echgres =>
    return spec.dependsOn ((Prerequisites.empty.add getic).taskAt (c.name .fcst) prev).all
  | .analinc =>
    return spec.dependsOn <|
      (Prerequisites.empty.add getic)
        |>.taskIf (c.has .echgres) (c.name .echgres)
        |>.data (((DataCheck.new (Template.rotdirFile "gdas" "logf009.txt")).atOffset prev).withMinAge
          Staging.settleAge)
        |>.taskAt (c.name .fcst) prev
        |>.all
  | .sfcanl =>
    let predecessor := if c.has .prep then Dependency.peer (c.name .prep) else getic
    return spec.dependsOn <|
      (Prerequisites.empty.add predecessor).data (Staging.restartCoupler "gdas" surfaceRestartAge)
        |>.all
  | .gldas =>
    let surface := (Prerequisites.empty.data (.new (Template.rotdirFile "gdas" "loginc.txt")))
      |>.task (c.name .sfcanl)
      |>.any
    return spec.dependsOn ((Prerequisites.empty.addOpt surface).add (.cycleExists prev false)).all
  | .fcst => return spec.dependsOn (forecastInputs c)
  | .gomg =>
    let grid := c.base.stringOr "SUFFIX" ""
    return spec.dependsOn <|
      (Prerequisites.empty.task (c.name .prep))
        |>.data (((DataCheck.new (Template.rotdirFile "gdas" ("sfcf006" ++ grid))).atOffset
          prev).withMinAge Staging.settleAge)
        |>.all
  | .analdiag => return spec.dependsOn (peerOf .gomg)
  | .archomg => return spec.dependsOn (peerOf .analdiag)
  | .post => Products.post c true
  | .vrfy => return Products.vrfy c
  | .metp => return Products.metp c
  | .arch =>
    let dep :=
      if c.has .post then
        let predecessor : Dependency :=
          if c.has .vrfy then .peer (c.name .vrfy) else .metatask (c.name .post)
        ((Prerequisites.empty.add predecessor).add Products.archiveGate).all
      else
        (Prerequisites.empty.taskIf (c.has .analdiag) (c.name .analdiag)).task (c.name .fcst)
          |>.all
    return spec.dependsOn dep
  | other => throw (.config ("task '" ++ other.name ++ "' is not part of replay experiments"))

end Replay

end CycledWorkflow
