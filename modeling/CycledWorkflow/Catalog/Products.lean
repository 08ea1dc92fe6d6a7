import CycledWorkflow.Catalog.Staging
/-!
# Product rules

Rules shared by the modes for tasks downstream of the forecast.

* Post-processing fans out over groups of forecast hours: every `FHOUT` hours up to `FHMAX`
  for the data-assimilation group; for the long forecast, hourly-rate hours up to
  `FHMAX_HF_GFS` and then every `FHOUT_GFS` hours up to the longest forecast of the day. A
  group starts once the forecast's log of its last hour exists (or, where allowed, once the
  forecast is done).
* Verification follows post-processing; METplus cases also wait for the previous cycle's
  archive.
* Graphics and bulletin products follow the forecast, the wave post, or post-processing.
* The archive follows the last of these and is gated on `ARCHIVE_TO_HPSS`.
-/

namespace CycledWorkflow

namespace Products

/-- The archive gate: archiving to tape is switched on. -/
def archiveGate : Dependency := .stringEq "${ARCHIVE_TO_HPSS}" "YES"

/-- The forecast hours post-processed by a group. -/
def postHours (c : Context) : Outcome (List Int) := do
  let base := c.base
  match c.group with
  | .gdas =>
    let fhmin ← base.intOr "FHMIN" 0
    let fhmax ← base.intOr "FHMAX" 9
    let fhout ← base.intOr "FHOUT" 3
    return hourRange fhmin fhmax fhout
  | .gfs =>
    let fhmin ← base.intOr "FHMIN_GFS" 0
    let fhmaxHf ← base.intOr "FHMAX_HF_GFS" 0
    let fhoutHf ← base.intOr "FHOUT_HF_GFS" 1
    let fhmax ← fhmaxGfsLongest base
    let fhout ← base.intOr "FHOUT_GFS" 3
    twoRateHours fhmin fhmaxHf fhoutHf fhmax fhout

/-- The number of post groups, `NPOSTGRP`; a negative count means one. -/
def postGroupCount (c : Context) : Outcome Nat := do
  let n ← (c.scope .post).intOr "NPOSTGRP" 1
  return if n < 0 then 1 else n.toNat

/-- Post-processing, fanned out over hour groups; `orForecast` lets a group also start once
the forecast is done. -/
def post (c : Context) (orForecast : Bool) : Outcome TaskSpec := do
  let hours ← postHours c
  if hours.isEmpty then throw (.invalidFanOut (c.name .post) "forecast-hour range is empty")
  let groups := hourGroups hours (← postGroupCount c)
  let log := DataCheck.new (Template.rotdirFile c.group.label "log${dep}.txt")
  let dep := (Prerequisites.empty.data log).taskIf orForecast (c.name .fcst) |>.any
  let fan := (FanOut.new (c.name .post) "grp" groups.labels).withTable "dep" groups.anchors
    |>.withTable "lst" groups.lists
  return (c.spec .post).dependsOn dep
    |>.withEnv (.text "ROTDIR" "${ROTDIR}")
    |>.withEnv (.fanOutVar "FHRGRP" "grp")
    |>.withEnv (.fanOutVar "FHRLST" "lst")
    |>.fannedOut fan

/-- Verification, after every post group. -/
def vrfy (c : Context) : TaskSpec := (c.spec .vrfy).dependsOn (some (.metatask (c.name .post)))

/-- The METplus cases, after this cycle's post and the previous cycle's archive. -/
def metp (c : Context) : TaskSpec :=
  let dep := (Prerequisites.empty.metatask (c.name .post)).taskAt (c.name .arch) c.interval.neg
    |>.all
  (c.spec .metp).dependsOn dep
    |>.withEnv (.text "SDATE_GFS" (c.base.stringOr "SDATE_GFS" ""))
    |>.withEnv (.fanOutVar "METPCASE" "metpcase")
    |>.fannedOut (FanOut.new (c.name .metp) "metpcase" ["g2g1", "g2o1", "pcp1"])

/-- What a downstream product waits for; `none` for a kind that is not one. -/
def productDependency (c : Context) : TaskKind → Option (Option Dependency)
  | .wavepostsbs | .wavepostbndpnt | .wavepostbndpntbll | .postsnd | .ocnpost =>
    some (Prerequisites.empty.task (c.name .fcst)).all
  | .wavepostpnt =>
    some ((Prerequisites.empty.task (c.name .fcst)).taskIf (c.has .wavepostbndpntbll)
      (c.name .wavepostbndpntbll)).all
  | .wavegempak | .waveawipsgridded => some (Prerequisites.empty.task (c.name .wavepostsbs)).all
  | .waveawipsbulls =>
    some ((Prerequisites.empty.task (c.name .wavepostsbs)).task (c.name .wavepostpnt)).all
  | .gempak | .awips | .wafs | .wafsgcip | .wafsgrib2 | .wafsgrib20p25 =>
    some (some (if c.has .post then .metatask (c.name .post) else .peer (c.name .fcst)))
  | .wafsblending => some (Prerequisites.empty.task (c.name .wafsgrib2)).all
  | .wafsblending0p25 => some (Prerequisites.empty.task (c.name .wafsgrib20p25)).all
  | _ => none

/-- A downstream product of the forecast or of post-processing; `none` for a kind that is
not one. -/
def product (c : Context) (t : TaskKind) : Option TaskSpec :=
  (productDependency c t).map (c.spec t).dependsOn

/-- The archive, after post-processing (and verification and METplus) and gated on tape
archiving; without post-processing, after the forecast. -/
def archAfterProducts (c : Context) : TaskSpec :=
  let dep :=
    if c.has .post then
      let predecessor : Dependency :=
        if c.has .vrfy then .peer (c.name .vrfy) else .metatask (c.name .post)
      (Prerequisites.empty.add predecessor).addIf (c.has .metp) (.metatask (c.name .metp))
        |>.add archiveGate |>.all
    else (Prerequisites.empty.task (c.name .fcst)).all
  (c.spec .arch).dependsOn dep

end Products

end CycledWorkflow
