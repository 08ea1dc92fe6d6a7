/-!
# Task kinds

The jobs a cycled forecast experiment can run: staging of initial conditions, observation
processing and analysis, the forecast, post-processing and products, the ensemble, and
archiving. Each kind has a snake-case name, which prefixed by its group's label names a task
of the graph (`gdasfcst`).

A kind reads its settings from the base scope overlaid with its configuration sections: its
own name, preceded by the shared section of its family (the ensemble observers share `anal`
and `eobs`, the ensemble update `anal`, the ensemble forecast `fcst`, the wave jobs `wave`).

Service kinds (retrieval and archiving) run in the service queue.
-/

namespace CycledWorkflow

/-- A kind of job in a cycled forecast experiment. -/
inductive TaskKind where
  | coupledIc | getic | getic4omg | getfcst | init | aerosolInit | eget | prep | analinc
  | atmanalprep | atmanalrun | atmanalpost | anal | analdiag | sfcanl | analcalc | gldas
  | waveinit | waveprep | fcst | post | ocnpost | vrfy | metp | gomg | archomg
  | eobs | eomg | ediag | eupd | atmensanalprep | atmensanalrun | atmensanalpost | echgres
  | ecen | esfc | efcs | epos | earc
  | wavepostsbs | wavepostpnt | wavepostbndpnt | wavepostbndpntbll | wavegempak
  | waveawipsbulls | waveawipsgridded | postsnd | gempak | awips
  | wafs | wafsgcip | wafsgrib2 | wafsgrib20p25 | wafsblending | wafsblending0p25
  | arch | enspost | ergpos | archerg
  deriving DecidableEq, Repr

namespace TaskKind

/-- The snake-case name of a kind. -/
def name : TaskKind → String
  | .coupledIc => "coupled_ic"
  | .getic => "getic"
  | .getic4omg => "getic4omg"
  | .getfcst => "getfcst"
  | .init => "init"
  | .aerosolInit => "aerosol_init"
  | .eget => "eget"
  | .prep => "prep"
  | .analinc => "analinc"
  | .atmanalprep => "atmanalprep"
  | .atmanalrun => "atmanalrun"
  | .atmanalpost => "atmanalpost"
  | .anal => "anal"
  | .analdiag => "analdiag"
  | .sfcanl => "sfcanl"
  | .analcalc => "analcalc"
  | .gldas => "gldas"
  | .waveinit => "waveinit"
  | .waveprep => "waveprep"
  | .fcst => "fcst"
  | .post => "post"
  | .ocnpost => "ocnpost"
  | .vrfy => "vrfy"
  | .metp => "metp"
  | .gomg => "gomg"
  | .archomg => "archomg"
  | .eobs => "eobs"
  | .eomg => "eomg"
  | .ediag => "ediag"
  | .eupd => "eupd"
  | .atmensanalprep => "atmensanalprep"
  | .atmensanalrun => "atmensanalrun"
  | .atmensanalpost => "atmensanalpost"
  | .echgres => "echgres"
  | .ecen => "ecen"
  | .esfc => "esfc"
  | .efcs => "efcs"
  | .epos => "epos"
  | .earc => "earc"
  | .wavepostsbs => "wavepostsbs"
  | .wavepostpnt => "wavepostpnt"
  | .wavepostbndpnt => "wavepostbndpnt"
  | .wavepostbndpntbll => "wavepostbndpntbll"
  | .wavegempak => "wavegempak"
  | .waveawipsbulls => "waveawipsbulls"
  | .waveawipsgridded => "waveawipsgridded"
  | .postsnd => "postsnd"
  | .gempak => "gempak"
  | .awips => "awips"
  | .wafs => "wafs"
  | .wafsgcip => "wafsgcip"
  | .wafsgrib2 => "wafsgrib2"
  | .wafsgrib20p25 => "wafsgrib20p25"
  | .wafsblending => "wafsblending"
  | .wafsblending0p25 => "wafsblending0p25"
  | .arch => "arch"
  | .enspost => "enspost"
  | .ergpos => "ergpos"
  | .archerg => "archerg"

/-- Every kind, in declaration order. -/
def all : List TaskKind :=
  [.coupledIc, .getic, .getic4omg, .getfcst, .init, .aerosolInit, .eget, .prep, .analinc,
   .atmanalprep, .atmanalrun, .atmanalpost, .anal, .analdiag, .sfcanl, .analcalc, .gldas,
   .waveinit, .waveprep, .fcst, .post, .ocnpost, .vrfy, .metp, .gomg, .archomg,
   .eobs, .eomg, .ediag, .eupd, .atmensanalprep, .atmensanalrun, .atmensanalpost, .echgres,
   .ecen, .esfc, .efcs, .epos, .earc,
   .wavepostsbs, .wavepostpnt, .wavepostbndpnt, .wavepostbndpntbll, .wavegempak,
   .waveawipsbulls, .waveawipsgridded, .postsnd, .gempak, .awips,
   .wafs, .wafsgcip, .wafsgrib2, .wafsgrib20p25, .wafsblending, .wafsblending0p25,
   .arch, .enspost, .ergpos, .archerg]

/-- The kind of a snake-case name. -/
def ofName? (text : String) : Option TaskKind := all.find? (·.name == text)

/-- The kinds `ks` when `cond` holds, and none otherwise. -/
def listIf (cond : Bool) (ks : List TaskKind) : List TaskKind := if cond then ks else []

/-- Whether a kind retrieves or archives data, and so runs in the service queue. -/
def isService : TaskKind → Bool
  | .getic | .getic4omg | .getfcst | .arch | .archomg | .earc | .eget | .archerg => true
  | _ => false

/-- Whether a kind is one of the wave jobs, which share the `wave` section. -/
def isWave : TaskKind → Bool
  | .wavepostsbs | .wavepostpnt | .wavepostbndpnt | .wavepostbndpntbll | .wavegempak
  | .waveawipsbulls | .waveawipsgridded | .waveinit | .waveprep => true
  | _ => false

/-- The configuration sections a kind reads, in overlay order. -/
def configSections (k : TaskKind) : List String :=
  match k with
  | .eobs | .eomg | .ediag => ["anal", "eobs", k.name]
  | .eupd => ["anal", "eupd"]
  | .efcs => ["fcst", "efcs"]
  | _ => if k.isWave then ["wave", k.name] else [k.name]

end TaskKind

end CycledWorkflow
