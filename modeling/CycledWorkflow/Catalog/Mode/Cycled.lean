import CycledWorkflow.Catalog.Products
/-!
# Cycled experiments

A cycled experiment runs two groups. The data-assimilation group (`gdas`) prepares
observations, analyses, runs a short forecast, post-processes and archives every cycle; with
the hybrid analysis on it also runs the ensemble (observer, update, recentering, forecasts
and their post-processing and archive). The long-forecast group (`gfs`) runs the long
forecast with its products, after its own analysis when `gfsanl` is on.

Each cycle's preparation waits for the previous cycle's post-processing and forecast files;
the data-assimilation forecast of the first cycle starts without a previous cycle.
-/

namespace CycledWorkflow

namespace Cycled

open TaskKind (listIf)

/-- The wave post-processing jobs of a group. -/
def wavePosts (f : Features) (g : CycleGroup) : List TaskKind :=
  listIf (f.wavesIn g)
    (listIf f.doWaveBnd [.wavepostbndpnt, .wavepostbndpntbll] ++ [.wavepostsbs, .wavepostpnt])

/-- The tasks before the forecast: preparation, analysis and surface analysis. -/
def beforeForecast (f : Features) : List TaskKind :=
  [.prep] ++ listIf f.ensreplay [.eget] ++
    (if f.doJedivar then [.atmanalprep, .atmanalrun, .atmanalpost] else [.anal]) ++
    [.sfcanl, .analcalc]

/-- The tasks after the forecast: post-processing and verification. -/
def afterForecast (f : Features) : List TaskKind := [.post] ++ listIf f.doVrfy [.vrfy]

/-- The ensemble tasks shared by both groups. -/
def hybridShared (f : Features) : List TaskKind :=
  listIf f.doHybvar
    (if f.doJediens then [.atmensanalprep, .atmensanalrun, .atmensanalpost, .echgres]
     else [.eobs, .eupd, .echgres, if f.lobsdiagForenkf then .ediag else .eomg])

/-- The ensemble tasks of the data-assimilation group only. -/
def hybridGdas (f : Features) : List TaskKind :=
  listIf f.doHybvar [.ecen, .esfc, .efcs, .epos, .earc]

/-- The tasks of the data-assimilation group. -/
def gdasTasks (f : Features) : List TaskKind :=
  listIf f.doTref [.getic, .init] ++ beforeForecast f ++
    listIf (!f.doJedivar) [.analdiag] ++
    listIf f.doGldas [.gldas] ++
    listIf (f.wavesIn .gdas) [.waveinit, .waveprep] ++
    [.fcst] ++ afterForecast f ++
    listIf (f.ensembleUpdateIn .gdas) (hybridShared f ++ hybridGdas f) ++
    wavePosts f .gdas ++ [.arch]

/-- The tasks of the long-forecast group. -/
def gfsTasks (f : Features) : List TaskKind :=
  listIf f.gfsanl (beforeForecast f) ++
    listIf (f.wavesIn .gfs) [.waveinit, .waveprep] ++
    [.fcst] ++ afterForecast f ++
    listIf f.doMetp [.metp] ++
    listIf (f.gfsanl && f.ensembleUpdateIn .gfs) (hybridShared f) ++
    wavePosts f .gfs ++
    listIf (f.wavesIn .gfs)
      (listIf f.doGempak [.wavegempak] ++ listIf f.doAwips [.waveawipsbulls, .waveawipsgridded]) ++
    listIf f.doBufrsnd [.postsnd] ++
    listIf f.doGempak [.gempak] ++
    listIf f.doAwips [.awips] ++
    listIf f.doWafs
      [.wafs, .wafsgcip, .wafsgrib2, .wafsgrib20p25, .wafsblending, .wafsblending0p25] ++
    [.arch]

/-- The plan of a cycled experiment. -/
def plan (f : Features) : TaskPlan :=
  ({} : TaskPlan).withGroup .gdas (gdasTasks f) |>.withGroup .gfs (gfsTasks f)

/-- What the analysis waits for: preparation, the fetched members, and the previous cycle's
ensemble post-processing. -/
def analysisInputs (c : Context) : Option Dependency :=
  (Prerequisites.empty.task (c.name .prep))
    |>.addIf (c.has .eget) (.metatask (c.metataskName "egmn"))
    |>.addIf (c.features.doHybvar && c.hasIn .gdas .epos)
      (.metataskAt "gdasepmn" Span.previousCycle)
    |>.all

/-- The ensemble post-processing, fanned out over hour groups. -/
def ensembleHourGroups (c : Context) : Outcome FanOut := do
  let scope := c.scope .epos
  let fhmin ← scope.intOr "FHMIN_ENKF" 3
  let fhmax ← scope.intOr "FHMAX_ENKF" 9
  let fhout ← scope.intOr "FHOUT_ENKF" 3
  let hours := hourRange fhmin fhmax fhout
  let n ← scope.intOr "NEPGRP" 3
  let groups := hourGroups hours (if n < 0 then 1 else n.toNat)
  return (FanOut.new (c.metataskName "epmn") "grp" groups.labels).withTable "lst" groups.lists

/-- The description of a task of a cycled experiment. -/
def describe (c : Context) (t : TaskKind) : Outcome TaskSpec := do
  let prev := Span.previousCycle
  let spec := c.spec t
  let peerOf := fun (k : TaskKind) => some (Dependency.peer (c.name k))
  match t with
  | .getic => return Staging.getic c
  | .init => return spec.dependsOn (peerOf .getic)
  | .prep =>
    return spec.dependsOn <|
      (Prerequisites.empty.add (.metataskAt (taskName .gdas .post) prev))
        |>.data ((DataCheck.new (Template.rotdirFile "gdas" "atmf009.nc")).atOffset prev)
        |>.data (Staging.dumpStatus c)
        |>.taskIf (c.has .init) (c.name .init)
        |>.all
  | .eget => Staging.eget c
  | .anal | .atmanalprep => return spec.dependsOn (analysisInputs c)
  | .atmanalrun => return spec.dependsOn (peerOf .atmanalprep)
  | .atmanalpost => return spec.dependsOn (peerOf .atmanalrun)
  | .analdiag => return spec.dependsOn (peerOf .anal)
  | .sfcanl => return spec.dependsOn (peerOf (if c.has .anal then .anal else .atmanalrun))
  | .analcalc =>
    return spec.dependsOn <|
      (Prerequisites.empty.task (c.name .sfcanl))
        |>.addIf (c.isGdas && c.has .echgres) (.peerAt (c.name .echgres) prev)
        |>.all
  | .gldas => return spec.dependsOn (peerOf .sfcanl)
  | .waveinit =>
    return spec.dependsOn <|
      (Prerequisites.empty.addOpt ((c.localOrGdas .prep).map Dependency.peer))
        |>.addIf c.isGdas (.cycleExists prev true)
        |>.any
  | .waveprep => return spec.dependsOn (peerOf .waveinit)
  | .fcst =>
    let core := (Prerequisites.empty.addOpt ((c.localOrGdas .sfcanl).map Dependency.peer))
      |>.taskIf (c.has .gldas) (c.name .gldas)
      |>.taskIf (c.has .waveprep) (c.name .waveprep)
      |>.all
    let dep := if c.isGdas then (Prerequisites.empty.addOpt core).cycleMissing prev |>.any
      else core
    return spec.dependsOn dep
  | .post => Products.post c true
  | .vrfy => return Products.vrfy c
  | .metp => return Products.metp c
  | .eobs | .atmensanalprep =>
    return spec.dependsOn <|
      (Prerequisites.empty.task (c.name .prep))
        |>.addIf (c.hasIn .gdas .epos) (.metataskAt "gdasepmn" prev)
        |>.all
  | .eomg | .ediag => return spec.dependsOn (peerOf .eobs)
  | .eupd => return spec.dependsOn (peerOf (if c.has .ediag then .ediag else .eomg))
  | .atmensanalrun => return spec.dependsOn (peerOf .atmensanalprep)
  | .atmensanalpost => return spec.dependsOn (peerOf .atmensanalrun)
  | .echgres =>
    return spec.dependsOn <|
      (Prerequisites.empty.task (c.name .fcst))
        |>.addIf (c.hasIn .gdas .efcs) (.metatask "gdasefmn")
        |>.all
  | .ecen | .esfc =>
    let update := if c.has .eupd then TaskKind.eupd else .atmensanalpost
    return spec.dependsOn ((Prerequisites.empty.task (c.name .analcalc)).task (c.name update)).all
  | .efcs =>
    let recentered := ((Prerequisites.empty.task (c.name .ecen)).task (c.name .esfc)).all
    let dep := (Prerequisites.empty.addOpt recentered).cycleMissing prev |>.any
    let fan ← Staging.memberFanOut c "efmn" "NMEM_EFCSGRP" 1
    return spec.dependsOn dep |>.withEnv (.fanOutVar "ENSGRP" "grp") |>.fannedOut fan
  | .epos =>
    let fan ← ensembleHourGroups c
    return spec.dependsOn (some (.metatask (c.metataskName "efmn")))
      |>.withEnv (.fanOutVar "FHRGRP" "grp")
      |>.withEnv (.fanOutVar "FHRLST" "lst")
      |>.fannedOut fan
  | .earc =>
    let fan ← Staging.memberFanOut c "eamn" "NMEM_EARCGRP" 0
    return spec.dependsOn (some (.metatask (c.metataskName "epmn")))
      |>.withEnv (.fanOutVar "ENSGRP" "grp")
      |>.fannedOut fan
  | .arch => return Products.archAfterProducts c
  | other =>
    match Products.product c other with
    | some s => return s
    | none => throw (.config ("task '" ++ other.name ++ "' is not part of cycled experiments"))

end Cycled

end CycledWorkflow
