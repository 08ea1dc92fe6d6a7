import CycledWorkflow.Calendar.Cadence
import CycledWorkflow.Config.Scope
import CycledWorkflow.Text.Case
/-!
# Feature switches

The switches of an experiment, read once from its derived base scope. The application name
(`APP`, default `ATM`, compared in upper case) sets the defaults of three of them: a name
starting with `S2S` is a coupled run with ocean and ice, a `W` in it turns waves on, and a
final `A` turns aerosols on. Every other switch is a YES/NO flag with a fixed default, read in
a fixed order, so that of two malformed flags the first in that order is reported.

The wave jobs and the ensemble update run in the groups named by `WAVE_CDUMP` and `EUPD_CYC`:
`gdas`, `gfs` or `both`.
-/

namespace CycledWorkflow

/-- The switches that decide which tasks an experiment runs. -/
structure Features where
  /-- The application name, in upper case. -/
  app : String
  /-- A coupled atmosphere, ocean and ice run. -/
  coupled : Bool
  /-- The atmosphere model runs. -/
  doAtm : Bool
  /-- The wave model runs. -/
  doWave : Bool
  /-- Wave boundary points are post-processed. -/
  doWaveBnd : Bool
  /-- The ocean model runs. -/
  doOcean : Bool
  /-- The sea-ice model runs. -/
  doIce : Bool
  /-- Aerosols are forecast. -/
  doAero : Bool
  /-- The hybrid ensemble-variational analysis runs. -/
  doHybvar : Bool
  /-- The variational analysis uses the JEDI system. -/
  doJedivar : Bool
  /-- The ensemble analysis uses the JEDI system. -/
  doJediens : Bool
  /-- The land data assimilation runs. -/
  doGldas : Bool
  /-- BUFR soundings are produced. -/
  doBufrsnd : Bool
  /-- GEMPAK products are produced. -/
  doGempak : Bool
  /-- AWIPS products are produced. -/
  doAwips : Bool
  /-- World area forecast products are produced. -/
  doWafs : Bool
  /-- Verification runs. -/
  doVrfy : Bool
  /-- METplus verification runs. -/
  doMetp : Bool
  /-- Forecast post-processing runs. -/
  doPost : Bool
  /-- Data is retrieved from and archived to tape. -/
  doHpssarch : Bool
  /-- Sea-surface temperature tiles are staged. -/
  doTref : Bool
  /-- Observation-minus-forecast statistics are computed. -/
  doOmf : Bool
  /-- Analysis increments are computed for observation-minus-forecast runs. -/
  doAnalinc : Bool
  /-- Surface cycling runs. -/
  doGcycle : Bool
  /-- Surface cycling runs on the first cycle of a replay. -/
  rungcycle : Bool
  /-- Ensemble forecasts are regridded before a replay increment. -/
  doChgresFcst : Bool
  /-- Ensemble members are staged for a replay. -/
  ensreplay : Bool
  /-- The long-forecast group runs its own analysis. -/
  gfsanl : Bool
  /-- The data-assimilation group post-processes its forecast. -/
  gdaspost : Bool
  /-- The experiment starts from warm restarts. -/
  warmStart : Bool
  /-- The ensemble observer writes diagnostics. -/
  lobsdiagForenkf : Bool
  /-- The replay variant, `1` or `2`. -/
  replay : Int
  /-- The run whose initial conditions are staged. -/
  icdump : String
  /-- The groups that run wave jobs. -/
  waveGroups : List CycleGroup
  /-- The groups that run the ensemble update. -/
  eupdGroups : List CycleGroup
  deriving DecidableEq, Repr

namespace Features

/-- The groups named by a key: `gdas`, `gfs` or `both`, in any case and spacing. -/
def groupList (base : Config.Scope) (key default : String) : Outcome (List CycleGroup) :=
  let text := base.stringOr key default
  match Text.toLower (Text.trim text) with
  | "both" => pure [.gdas, .gfs]
  | "gdas" => pure [.gdas]
  | "gfs" => pure [.gfs]
  | _ => throw (.invalidValue key text "gdas, gfs or both")

/-- The switches of a base scope. -/
def ofScope (base : Config.Scope) : Outcome Features := do
  let app := Text.toUpper (base.stringOr "APP" "ATM")
  let coupled := app.startsWith "S2S"
  let doWave ← base.flag "DO_WAVE" (app.contains 'W')
  let doAero ← base.flag "DO_AERO" (app.endsWith "A")
  let doAtm ← base.flag "DO_ATM" true
  let doWaveBnd ← base.flag "DOBNDPNT_WAVE" false
  let doOcean ← base.flag "DO_OCN" coupled
  let doIce ← base.flag "DO_ICE" coupled
  let doHybvar ← base.flag "DOHYBVAR" false
  let doJedivar ← base.flag "DO_JEDIVAR" false
  let doJediens ← base.flag "DO_JEDIENS" false
  let doGldas ← base.flag "DO_GLDAS" false
  let doBufrsnd ← base.flag "DO_BUFRSND" false
  let doGempak ← base.flag "DO_GEMPAK" false
  let doAwips ← base.flag "DO_AWIPS" false
  let doWafs ← base.flag "WAFSF" false
  let doVrfy ← base.flag "DO_VRFY" true
  let doMetp ← base.flag "DO_METP" false
  let doPost ← base.flag "DO_POST" true
  let doHpssarch ← base.flag "HPSSARCH" false
  let doTref ← base.flag "DO_TREF_TILE" false
  let doOmf ← base.flag "DO_OmF" false
  let doAnalinc ← base.flag "do_analinc" false
  let doGcycle ← base.flag "DOGCYCLE" true
  let rungcycle ← base.flag "rungcycle" true
  let doChgresFcst ← base.flag "DO_CHGRES_FCST" false
  let ensreplay ← base.flag "ENSREPLAY" false
  let gfsanl ← base.flag "gfsanl" false
  let gdaspost ← base.flag "gdaspost" false
  let warmStart ← base.flag "EXP_WARM_START" false
  let lobsdiagForenkf ← base.flag "lobsdiag_forenkf" false
  let replay ← base.intOr "replay" 1
  let icdump := base.stringOr "ICDUMP" "gdas"
  let waveGroups ← groupList base "WAVE_CDUMP" "gdas"
  let eupdGroups ← groupList base "EUPD_CYC" "gdas"
  return { app, coupled, doAtm, doWave, doWaveBnd, doOcean, doIce, doAero, doHybvar,
           doJedivar, doJediens, doGldas, doBufrsnd, doGempak, doAwips, doWafs, doVrfy,
           doMetp, doPost, doHpssarch, doTref, doOmf, doAnalinc, doGcycle, rungcycle,
           doChgresFcst, ensreplay, gfsanl, gdaspost, warmStart, lobsdiagForenkf, replay,
           icdump, waveGroups, eupdGroups }

/-- Whether the wave jobs run in a group. -/
def wavesIn (f : Features) (g : CycleGroup) : Bool := f.doWave && f.waveGroups.contains g

/-- Whether the ensemble update runs in a group. -/
def ensembleUpdateIn (f : Features) (g : CycleGroup) : Bool :=
  f.doHybvar && f.eupdGroups.contains g

end Features

end CycledWorkflow
