import CycledWorkflow.Proofs.Calendar.Plain
import CycledWorkflow.Proofs.Catalog.Entries
import CycledWorkflow.Catalog.Build
/-!
# The placeholders a description uses

The texts of a description that the graph checks for placeholders are its text variables, the
templates of the files it waits for and the texts it compares. Each part of a description gets
the list of placeholders it uses, from left to right, so that the placeholders of a whole
description are read off its builder chain by rewriting, as its conditions are.

A description uses only what the graph will bind (`PlaceholdersKnown`): the cycle fields, the
bindings every graph has once its experiment sets its name and root directories, and the
variables of its own fan-out, whose variable must itself be a placeholder name. The variables
of a fan-out reach a template only inside that fan-out: post-processing reads the log of
`${dep}`, its members see `${grp}` and `${lst}`, the METplus cases `${metpcase}`.

Every mode's rules describe tasks that use only known placeholders, given a base without `$`
in its texts and a name without `$` for the run whose initial conditions are staged.

Main statements: `Cycled.describe_placeholdersKnown` and its counterparts for the other
modes.
-/

namespace CycledWorkflow

open Template (Plain)

/-- The bindings of every graph whose experiment sets its name and root directories. -/
def Graph.standardBindings : List String :=
  "PSLOT" :: Graph.rootKeys ++ ["JOBS_DIR", "RUN_ENVIR", "ARCHIVE_TO_HPSS"]

/-! ### The placeholders of each part -/

namespace EnvBinding

/-- The placeholders of a variable's value; a cycle field has none. -/
def placeholders (b : EnvBinding) : List String :=
  match b.value with
  | .text v => Template.placeholders v
  | .cycleTime _ _ => []

@[simp] theorem placeholders_text (n v : String) :
    (text n v).placeholders = Template.placeholders v := rfl

@[simp] theorem placeholders_cycle (n : String) (f : CycleFormat) (o : Option Span) :
    (cycle n f o).placeholders = [] := rfl

/-- A member's copy of a fan-out variable names that variable. -/
theorem placeholders_fanOutVar (n : String) {v : String} (hv : Template.IsName v.toList) :
    (fanOutVar n v).placeholders = [v] := by
  simp only [fanOutVar, placeholders_text, Template.placeholders, String.toList_append]
  rw [show ("$\x7b".toList ++ v.toList ++ "\x7d".toList) = '$' :: '{' :: (v.toList ++ ['}']) by
      simp,
    Template.scan_placeholder hv, String.ofList_toList, Template.scan_nil]

end EnvBinding

namespace DataCheck

/-- The placeholders of a file check: those of its path, then those of its suffix. -/
def placeholders (c : DataCheck) : List String := c.templates.flatMap Template.placeholders

@[simp] theorem placeholders_new (p : String) :
    (DataCheck.new p).placeholders = Template.placeholders p := by
  simp [placeholders, templates, DataCheck.new]

@[simp] theorem placeholders_atOffset (c : DataCheck) (d : Span) :
    (c.atOffset d).placeholders = c.placeholders := rfl

@[simp] theorem placeholders_withMinAge (c : DataCheck) (d : Span) :
    (c.withMinAge d).placeholders = c.placeholders := rfl

@[simp] theorem template_new (p : String) : (DataCheck.new p).path.template = p := rfl

@[simp] theorem template_atOffset (c : DataCheck) (d : Span) :
    (c.atOffset d).path.template = c.path.template := rfl

@[simp] theorem placeholders_withSuffix (c : DataCheck) (t : String) :
    (c.withSuffix t).placeholders = Template.placeholders c.path.template ++
      Template.placeholders t := by
  simp [placeholders, templates, withSuffix]

end DataCheck

namespace Predicate

/-- The placeholders of a condition: those of a file check or of compared texts. -/
def placeholders : Predicate → List String
  | .data c => c.placeholders
  | .strEq l r => Template.placeholders l ++ Template.placeholders r
  | .task _ _ | .metatask _ _ | .cycleExists _ _ => []

@[simp] theorem placeholders_data (c : DataCheck) : (data c).placeholders = c.placeholders := rfl

@[simp] theorem placeholders_strEq (l r : String) :
    (strEq l r).placeholders = Template.placeholders l ++ Template.placeholders r := rfl

@[simp] theorem placeholders_task (n : String) (o : Option Span) :
    (task n o).placeholders = [] := rfl

@[simp] theorem placeholders_metatask (n : String) (o : Option Span) :
    (metatask n o).placeholders = [] := rfl

@[simp] theorem placeholders_cycleExists (d : Span) (negate : Bool) :
    (cycleExists d negate).placeholders = [] := rfl

end Predicate

namespace TaskSpec

/-- The placeholders of a description: those of its variables, then of its conditions. -/
def placeholders (s : TaskSpec) : List String :=
  s.env.flatMap EnvBinding.placeholders ++ s.leaves.flatMap Predicate.placeholders

/-- The variables of a description's fan-out, none when it runs once. -/
def fanVariables (s : TaskSpec) : List String :=
  match s.fanOut with
  | some f => f.memberVariables
  | none => []

@[simp] theorem env_dependsOn (s : TaskSpec) (d : Option Dependency) :
    (s.dependsOn d).env = s.env := rfl

@[simp] theorem env_onCadence (s : TaskSpec) (c : CadenceId) : (s.onCadence c).env = s.env :=
  rfl

@[simp] theorem env_withEnv (s : TaskSpec) (b : EnvBinding) : (s.withEnv b).env = s.env ++ [b] :=
  rfl

@[simp] theorem env_fannedOut (s : TaskSpec) (f : FanOut) : (s.fannedOut f).env = s.env := rfl

@[simp] theorem fanVariables_fannedOut (s : TaskSpec) (f : FanOut) :
    (s.fannedOut f).fanVariables = f.memberVariables := rfl

end TaskSpec

/-- A description uses only placeholders the graph binds: the cycle fields, the standard
bindings and the variables of its fan-out, whose variable is a placeholder name. -/
structure TaskSpec.PlaceholdersKnown (s : TaskSpec) : Prop where
  placeholders : s.placeholders ⊆ Template.cycleFields ++ Graph.standardBindings ++ s.fanVariables
  var : ∀ f, s.fanOut = some f → Template.IsName f.var.toList

namespace TaskSpec.PlaceholdersKnown

variable {s : TaskSpec}

/-- A description that runs once may use the cycle fields and the standard bindings. -/
theorem of_runsOnce (hf : s.fanOut = none)
    (h : s.placeholders ⊆ Template.cycleFields ++ Graph.standardBindings) : s.PlaceholdersKnown :=
  ⟨by simpa [fanVariables, hf] using h, by simp [hf]⟩

/-- A member of a fan-out may also use the fan-out's variables. -/
theorem of_fannedOut {f : FanOut} (hv : Template.IsName f.var.toList)
    (h : s.placeholders ⊆ Template.cycleFields ++ Graph.standardBindings ++ f.memberVariables) :
    (s.fannedOut f).PlaceholdersKnown :=
  ⟨h, by simp [hv]⟩

end TaskSpec.PlaceholdersKnown

@[simp] theorem TaskSpec.placeholders_fannedOut (s : TaskSpec) (f : FanOut) :
    (s.fannedOut f).placeholders = s.placeholders := rfl

/-- Waiting for a task that may not run names no placeholder. -/
@[simp] theorem placeholders_leavesOf_map_peer (o : Option String) :
    (Dependency.leavesOf (o.map Dependency.peer)).flatMap Predicate.placeholders = [] := by
  cases o <;> rfl

@[simp] theorem placeholders_leavesOf_map_peer_comp {α : Type} (o : Option α)
    (g : α → String) :
    (Dependency.leavesOf (o.map fun a => Dependency.peer (g a))).flatMap Predicate.placeholders =
      [] := by
  cases o <;> rfl

theorem ite_subset_iff {α : Type} {p : Prop} [Decidable p] {l l' m : List α} :
    (if p then l else l') ⊆ m ↔ (p → l ⊆ m) ∧ (¬p → l' ⊆ m) := by
  split <;> simp_all

/-! ### Fan-outs -/

namespace FanOut

theorem mem_insertTable_names {n x : String} {t : List String} :
    ∀ {l : List (String × List String)},
      x ∈ (insertTable n t l).map Prod.fst ↔ x = n ∨ x ∈ l.map Prod.fst
  | [] => by simp [insertTable]
  | (n', u) :: rest => by
    unfold insertTable
    split
    · simp
    · split
      · next h => subst h; simp
      · simp only [List.map_cons, List.mem_cons, mem_insertTable_names]
        exact or_left_comm

@[simp] theorem var_new (m v : String) (vs : List String) : (FanOut.new m v vs).var = v := rfl

@[simp] theorem memberVariables_new (m v : String) (vs : List String) :
    (FanOut.new m v vs).memberVariables = [v] := rfl

@[simp] theorem mem_memberVariables_withTable {f : FanOut} {n x : String} {t : List String} :
    x ∈ (f.withTable n t).memberVariables ↔ x = n ∨ x ∈ f.memberVariables := by
  simp only [memberVariables, withTable, List.mem_cons, mem_insertTable_names]
  exact or_left_comm

@[simp] theorem var_withTable (f : FanOut) (n : String) (t : List String) :
    (f.withTable n t).var = f.var := rfl

end FanOut

/-! ### Rules shared by the modes -/

namespace Context

variable {c : Context}

/-- Every task sees the home and experiment directories; its run environment and group label
hold no placeholder. -/
@[simp] theorem placeholders_spec_env (hb : c.base.Plain) (t : TaskKind) :
    (c.spec t).env.flatMap EnvBinding.placeholders = ["HOMEgfs", "EXPDIR"] := by
  have hr := hb.stringOr "RUN_ENVIR" (d := "emc") (by decide)
  have hhome : Template.placeholders "${HOMEgfs}" = ["HOMEgfs"] := by
    rw [Template.placeholders_eq_scanFor]; decide
  have hexp : Template.placeholders "${EXPDIR}" = ["EXPDIR"] := by
    rw [Template.placeholders_eq_scanFor]; decide
  simp [spec, cycleBindings, Template.placeholders_of_plain hr,
    Template.placeholders_of_plain (CycleGroup.plain_label _), hhome, hexp]

end Context

theorem previousCycleBindings_placeholders (d : Span) :
    (previousCycleBindings d).flatMap EnvBinding.placeholders = [] := by
  simp [previousCycleBindings, Template.placeholders_of_plain (by decide : Plain "gdas")]

namespace Staging

variable {c : Context}

/-- The coupler restart names the run's directory of the previous cycle and the cycle's time. -/
@[simp] theorem placeholders_restartCoupler {run : String} (hrun : Plain run) (age : Span) :
    (restartCoupler run age).placeholders = ["ROTDIR", "PDY", "HH", "PDY", "HH"] := by
  have hdir : Template.placeholders "RESTART/" = [] := Template.placeholders_of_plain (by decide)
  have hfile : Template.placeholders "${PDY}.${HH}0000.coupler.res" = ["PDY", "HH"] := by
    rw [Template.placeholders_eq_scanFor]; decide
  simp [restartCoupler, Template.placeholders_rotdirPath hrun, hdir, hfile]

/-- The dump status names the dump directory and the cycle's date and hour. -/
@[simp] theorem placeholders_dumpStatus (hb : c.base.Plain) :
    (dumpStatus c).placeholders = ["DMPDIR", "PDY", "HH", "HH"] := by
  have hrun := CycleGroup.plain_label c.group
  have hsuffix := hb.stringOr "DUMP_SUFFIX" (d := "") (by decide)
  have hroot : Template.placeholders "${DMPDIR}/" = ["DMPDIR"] := by
    rw [Template.placeholders_eq_scanFor]; decide
  have hcycle : Template.placeholders ".${PDY}/${HH}/atmos/" = ["PDY", "HH"] := by
    rw [Template.placeholders_eq_scanFor]; decide
  have hfile : Template.placeholders ".t${HH}z.updated.status.tm00.bufr_d" = ["HH"] := by
    rw [Template.placeholders_eq_scanFor]; decide
  simp only [dumpStatus, DataCheck.placeholders_new, String.append_assoc]
  rw [Template.placeholders_append (by decide), Template.placeholders_plain_append hrun,
    Template.placeholders_plain_append hsuffix, Template.placeholders_append (by decide),
    Template.placeholders_plain_append hrun, hroot, hcycle, hfile]
  rfl

theorem getic_placeholdersKnown (hb : c.base.Plain) (hi : Plain c.features.icdump) :
    (getic c).PlaceholdersKnown := by
  refine ⟨?_, by simp [getic]⟩
  simp +decide [getic, TaskSpec.placeholders, TaskSpec.leaves, TaskSpec.fanVariables, hb,
    Template.placeholders_rotdirFile hi, Template.placeholders_of_plain]

/-- Ensemble members are fanned out in groups, over the variable `grp`. -/
theorem memberFanOut_eq {suffix sizeKey : String} {first : Nat} {fan : FanOut}
    (h : memberFanOut c suffix sizeKey first = .ok fan) :
    ∃ vs, fan = FanOut.new (c.metataskName suffix) "grp" vs := by
  unfold memberFanOut at h
  obtain ⟨members, -, h⟩ := exists_ok_of_bind_ok h
  obtain ⟨size, -, h⟩ := exists_ok_of_bind_ok h
  dsimp only at h
  split at h
  · cases h
  · obtain ⟨vs, -, h⟩ := exists_ok_of_bind_ok h
    exact ⟨vs, (Except.ok.inj h).symm⟩

theorem eget_placeholdersKnown (hb : c.base.Plain) {s : TaskSpec} (h : eget c = .ok s) :
    s.PlaceholdersKnown := by
  -- the two forecast files of the first member, as the rules write them out
  have h6 : Template.placeholders
      "${ROTDIR}/enkfgdas.${PDY}/${HH}/atmos/mem001/gdas.t${HH}z.atmf006.nc" =
      ["ROTDIR", "PDY", "HH", "HH"] := by rw [Template.placeholders_eq_scanFor]; decide
  have hs6 : Template.placeholders
      "${ROTDIR}/enkfgdas.${PDY}/${HH}/atmos/mem001/gdas.t${HH}z.sfcf006.nc" =
      ["ROTDIR", "PDY", "HH", "HH"] := by rw [Template.placeholders_eq_scanFor]; decide
  unfold eget at h
  obtain ⟨fan, hfan, h⟩ := exists_ok_of_bind_ok h
  obtain ⟨vs, rfl⟩ := memberFanOut_eq hfan
  obtain rfl := Except.ok.inj h
  refine ⟨?_, by simp +decide⟩
  simp +decide [TaskSpec.placeholders, TaskSpec.leaves, hb, h6, hs6,
    EnvBinding.placeholders_fanOutVar]

end Staging

namespace Products

variable {c : Context}

/-- Post-processing reads the log of each group's last hour, `${dep}`, and its members see
their hour group and hour list. -/
theorem post_placeholdersKnown (hb : c.base.Plain) {orForecast : Bool} {s : TaskSpec}
    (h : post c orForecast = .ok s) : s.PlaceholdersKnown := by
  have hroot : Template.placeholders "${ROTDIR}" = ["ROTDIR"] := by
    rw [Template.placeholders_eq_scanFor]; decide
  have hlog : Template.placeholders "log${dep}.txt" = ["dep"] := by
    rw [Template.placeholders_eq_scanFor]; decide
  unfold post at h
  obtain ⟨hours, -, h⟩ := exists_ok_of_bind_ok h
  dsimp only at h
  split at h
  · cases h
  · obtain ⟨n, -, h⟩ := exists_ok_of_bind_ok h
    obtain rfl := Except.ok.inj h
    refine .of_fannedOut (by simp; decide) ?_
    simp +decide [TaskSpec.placeholders, TaskSpec.leaves, hb, hroot, hlog,
      Template.placeholders_rotdirFile (CycleGroup.plain_label _),
      EnvBinding.placeholders_fanOutVar, apply_ite (List.flatMap Predicate.placeholders)]

theorem vrfy_placeholdersKnown (hb : c.base.Plain) : (vrfy c).PlaceholdersKnown :=
  .of_runsOnce rfl (by simp +decide [vrfy, TaskSpec.placeholders, TaskSpec.leaves, hb])

/-- The METplus cases see their case. -/
theorem metp_placeholdersKnown (hb : c.base.Plain) : (metp c).PlaceholdersKnown := by
  have hstart := hb.stringOr "SDATE_GFS" (d := "") (by decide)
  have hcase := EnvBinding.placeholders_fanOutVar "METPCASE" (v := "metpcase") (by decide)
  unfold metp
  refine .of_fannedOut (by simp; decide) ?_
  simp +decide [TaskSpec.placeholders, TaskSpec.leaves, hb, Template.placeholders_of_plain hstart,
    hcase]

/-- The archive compares the tape switch with `YES`. -/
theorem archAfterProducts_placeholdersKnown (hb : c.base.Plain) :
    (archAfterProducts c).PlaceholdersKnown := by
  have hgate : Template.placeholders "${ARCHIVE_TO_HPSS}" = ["ARCHIVE_TO_HPSS"] := by
    rw [Template.placeholders_eq_scanFor]; decide
  refine .of_runsOnce rfl ?_
  simp +decide [archAfterProducts, archiveGate, TaskSpec.placeholders, TaskSpec.leaves, hb,
    hgate, Template.placeholders_of_plain, apply_ite Dependency.leavesOf,
    apply_ite Dependency.leaves, apply_ite (List.flatMap Predicate.placeholders), ite_subset_iff]

theorem product_placeholdersKnown (hb : c.base.Plain) {t : TaskKind} {s : TaskSpec}
    (h : product c t = some s) : s.PlaceholdersKnown := by
  cases t <;> simp [product, productDependency] at h <;> subst h <;>
    exact .of_runsOnce rfl (by simp +decide [TaskSpec.placeholders, TaskSpec.leaves, hb,
      apply_ite Dependency.leaves, apply_ite (List.flatMap Predicate.placeholders)])

end Products

/-! ### The modes -/

namespace Cycled

variable {c : Context}

/-- The ensemble post-processing fans out over hour groups and their hour lists. -/
theorem ensembleHourGroups_eq {fan : FanOut} (h : ensembleHourGroups c = .ok fan) :
    ∃ labels lists,
      fan = (FanOut.new (c.metataskName "epmn") "grp" labels).withTable "lst" lists := by
  unfold ensembleHourGroups at h
  obtain ⟨_, -, h⟩ := exists_ok_of_bind_ok h
  obtain ⟨_, -, h⟩ := exists_ok_of_bind_ok h
  obtain ⟨_, -, h⟩ := exists_ok_of_bind_ok h
  obtain ⟨_, -, h⟩ := exists_ok_of_bind_ok h
  exact ⟨_, _, (Except.ok.inj h).symm⟩

/-- Every description of a cycled experiment uses only the placeholders the graph binds. -/
theorem describe_placeholdersKnown (hb : c.base.Plain) (hi : Plain c.features.icdump)
    {t : TaskKind} {s : TaskSpec} (h : describe c t = .ok s) : s.PlaceholdersKnown := by
  have hgrp := EnvBinding.placeholders_fanOutVar "ENSGRP" (v := "grp") (by decide)
  cases t <;> simp only [describe, pure, Except.pure, Except.ok.injEq] at h
  case getic => exact h ▸ Staging.getic_placeholdersKnown hb hi
  case eget => exact Staging.eget_placeholdersKnown hb h
  case post => exact Products.post_placeholdersKnown hb h
  case vrfy => exact h ▸ Products.vrfy_placeholdersKnown hb
  case metp => exact h ▸ Products.metp_placeholdersKnown hb
  case arch => exact h ▸ Products.archAfterProducts_placeholdersKnown hb
  case efcs | earc =>
    obtain ⟨fan, hfan, h⟩ := exists_ok_of_bind_ok h
    obtain ⟨vs, rfl⟩ := Staging.memberFanOut_eq hfan
    obtain rfl := Except.ok.inj h
    refine .of_fannedOut (by simp; decide) ?_
    simp +decide [TaskSpec.placeholders, TaskSpec.leaves, hb, hgrp]
  case epos =>
    have hhour := EnvBinding.placeholders_fanOutVar "FHRGRP" (v := "grp") (by decide)
    have hlist := EnvBinding.placeholders_fanOutVar "FHRLST" (v := "lst") (by decide)
    obtain ⟨fan, hfan, h⟩ := exists_ok_of_bind_ok h
    obtain ⟨labels, lists, rfl⟩ := ensembleHourGroups_eq hfan
    obtain rfl := Except.ok.inj h
    refine .of_fannedOut (by simp; decide) ?_
    simp +decide [TaskSpec.placeholders, TaskSpec.leaves, hb, hhour, hlist]
  case prep =>
    subst h
    refine .of_runsOnce rfl ?_
    simp +decide [TaskSpec.placeholders, TaskSpec.leaves, hb, Template.placeholders_rotdirFile,
      Template.placeholders_of_plain, apply_ite (List.flatMap Predicate.placeholders)]
  -- the products, or kinds a cycled experiment does not describe
  case wavepostsbs | wavepostpnt | wavepostbndpnt | wavepostbndpntbll | wavegempak
    | waveawipsbulls | waveawipsgridded | postsnd | gempak | awips | wafs | wafsgcip | wafsgrib2
    | wafsgrib20p25 | wafsblending | wafsblending0p25 | coupledIc | getic4omg | getfcst
    | aerosolInit | analinc | ocnpost | gomg | archomg | enspost | ergpos | archerg =>
    split at h
    next s' hs =>
      obtain rfl := Except.ok.inj h
      exact Products.product_placeholdersKnown hb hs
    next => cases h
  -- the rules that wait for tasks and cycles only
  all_goals
    subst h
    exact .of_runsOnce rfl (by simp +decide [TaskSpec.placeholders, TaskSpec.leaves, hb,
      analysisInputs, apply_ite Dependency.leavesOf,
      apply_ite (List.flatMap Predicate.placeholders)])

end Cycled

namespace ForecastOnly

variable {c : Context}

theorem placeholders_sfcData {run : String} (hrun : Plain run) :
    Template.placeholders (sfcData run) = ["ROTDIR", "PDY", "HH"] := by
  rw [sfcData, Template.placeholders_rotdirPath hrun,
    Template.placeholders_of_plain (by decide : Plain "INPUT/sfc_data.tile6.nc")]
  rfl

theorem placeholders_sfcanlData {run : String} (hrun : Plain run) :
    Template.placeholders (sfcanlData run) = ["ROTDIR", "PDY", "HH", "PDY", "HH"] := by
  have hfile : Template.placeholders "RESTART/${PDY}.${HH}0000.sfcanl_data.tile6.nc" =
      ["PDY", "HH"] := by rw [Template.placeholders_eq_scanFor]; decide
  rw [sfcanlData, Template.placeholders_rotdirPath hrun, hfile]
  rfl

/-- A file under a run's directory of initial conditions names the directory root, the date
and the hour, then whatever the rest of its name holds. -/
theorem placeholders_icsdir {icdump : String} (hi : Plain icdump) (rest : String) :
    Template.placeholders ("${ICSDIR}/" ++ (icdump ++ (".${PDY}/${HH}" ++ rest))) =
      ["ICSDIR", "PDY", "HH"] ++ Template.placeholders rest := by
  have hroot : Template.placeholders "${ICSDIR}/" = ["ICSDIR"] := by
    rw [Template.placeholders_eq_scanFor]; decide
  have hcycle : Template.placeholders ".${PDY}/${HH}" = ["PDY", "HH"] := by
    rw [Template.placeholders_eq_scanFor]; decide
  rw [Template.placeholders_append (by decide), Template.placeholders_plain_append hi,
    Template.placeholders_append (by decide), hroot, hcycle]
  rfl

/-- Each layout of initial conditions names the directory root, the date and the hour. -/
theorem placeholders_initialConditions {icdump : String} (hi : Plain icdump) :
    (Dependency.leavesOf (initialConditions icdump)).flatMap Predicate.placeholders ⊆
      ["ICSDIR", "PDY", "HH"] := by
  have hsanl : Template.placeholders ".t${HH}z.sanl" = ["HH"] := by
    rw [Template.placeholders_eq_scanFor]; decide
  have hnemsio : Template.placeholders ".t${HH}z.atmanl.nemsio" = ["HH"] := by
    rw [Template.placeholders_eq_scanFor]; decide
  have hnc : Template.placeholders ".t${HH}z.atmanl.nc" = ["HH"] := by
    rw [Template.placeholders_eq_scanFor]; decide
  have hrestart : Template.placeholders "/atmos/RESTART/${PDY}.${HH}0000.sfcanl_data.tile6.nc" =
      ["PDY", "HH"] := by rw [Template.placeholders_eq_scanFor]; decide
  have hslash := Template.placeholders_plain_append (by decide : Plain "/")
  have hatmos := Template.placeholders_plain_append (by decide : Plain "/atmos/")
  simp only [initialConditions, Prerequisites.leavesOf_any, Prerequisites.children_data,
    Prerequisites.children_empty, List.nil_append, List.cons_append, List.flatMap_cons,
    List.flatMap_nil, Dependency.leaves_artifact, Predicate.placeholders_data,
    DataCheck.placeholders_new, String.append_assoc, placeholders_icsdir hi, hslash, hatmos,
    Template.placeholders_plain_append hi, hsanl, hnemsio, hnc, hrestart]
  decide

/-- The increment's analysis names the directory root, the date and the hour. -/
theorem placeholders_analinc {icdump : String} (hi : Plain icdump) :
    Template.placeholders
      ("${ICSDIR}/" ++ icdump ++ ".${PDY}/${HH}/atmos/" ++ icdump ++ ".t${HH}z.atmanl.nc") =
      ["ICSDIR", "PDY", "HH", "HH"] := by
  have hnc : Template.placeholders "/atmos/" = [] := Template.placeholders_of_plain (by decide)
  have hfile : Template.placeholders ".t${HH}z.atmanl.nc" = ["HH"] := by
    rw [Template.placeholders_eq_scanFor]; decide
  rw [show ".${PDY}/${HH}/atmos/" = ".${PDY}/${HH}" ++ "/atmos/" by decide]
  simp only [String.append_assoc]
  rw [placeholders_icsdir hi, Template.placeholders_plain_append (by decide),
    Template.placeholders_plain_append hi, hfile]
  rfl

/-- Every description of a forecast-only experiment uses only the placeholders the graph
binds. -/
theorem describe_placeholdersKnown (hb : c.base.Plain) (hi : Plain c.features.icdump)
    {t : TaskKind} {s : TaskSpec} (h : describe c t = .ok s) : s.PlaceholdersKnown := by
  have hrun := CycleGroup.plain_label c.group
  have hgate : Template.placeholders "${ARCHIVE_TO_HPSS}" = ["ARCHIVE_TO_HPSS"] := by
    rw [Template.placeholders_eq_scanFor]; decide
  cases t <;> simp only [describe, pure, Except.pure, Except.ok.injEq] at h
  case post => exact Products.post_placeholdersKnown hb h
  case vrfy => exact h ▸ Products.vrfy_placeholdersKnown hb
  case metp => exact h ▸ Products.metp_placeholdersKnown hb
  case init =>
    subst h
    refine .of_runsOnce rfl ?_
    have hic := placeholders_initialConditions hi
    simp only [TaskSpec.placeholders, TaskSpec.leaves, TaskSpec.dependency_dependsOn,
      TaskSpec.env_dependsOn, Context.placeholders_spec_env hb, Prerequisites.leavesOf_all,
      Prerequisites.children_taskIf, Prerequisites.children_addOpt,
      Prerequisites.children_empty, List.nil_append, List.flatMap_append,
      Prerequisites.flatMap_leaves_toList, Prerequisites.flatMap_leaves_ite,
      List.append_subset] at hic ⊢
    refine ⟨by simp +decide,
      fun x hx => ?_, by split <;> simp⟩
    have hx := hic hx
    simp only [List.mem_cons, List.not_mem_nil, or_false] at hx
    rcases hx with rfl | rfl | rfl <;> simp +decide
  case analinc =>
    subst h
    refine .of_runsOnce rfl ?_
    simp +decide [TaskSpec.placeholders, TaskSpec.leaves, hb, placeholders_analinc hi,
      Template.placeholders_rotdirFile hrun, Template.placeholders_of_plain]
  case arch =>
    subst h
    refine .of_runsOnce rfl ?_
    simp +decide [TaskSpec.placeholders, TaskSpec.leaves, hb, Products.archiveGate, hgate,
      Template.placeholders_of_plain, apply_ite Dependency.leavesOf,
      apply_ite (List.flatMap Predicate.placeholders), ite_subset_iff]
  case wavepostsbs | wavepostpnt | wavepostbndpnt | wavepostbndpntbll | wavegempak
    | waveawipsbulls | waveawipsgridded | postsnd | gempak | awips | wafs | wafsgcip | wafsgrib2
    | wafsgrib20p25 | wafsblending | wafsblending0p25 | eget | atmanalprep | atmanalrun
    | atmanalpost | anal | sfcanl | analcalc | gldas | waveprep | ocnpost | eobs | eomg | ediag
    | eupd | atmensanalprep | atmensanalrun | atmensanalpost | echgres | ecen | esfc | efcs
    | epos | earc | getfcst | enspost | ergpos | archerg =>
    split at h
    next s' hs =>
      obtain rfl := Except.ok.inj h
      exact Products.product_placeholdersKnown hb hs
    next => cases h
  -- the rules that wait for the forecast's inputs, tasks and cycles
  all_goals
    subst h
    exact .of_runsOnce rfl (by simp +decide [TaskSpec.placeholders, TaskSpec.leaves, hb,
      placeholders_sfcData hrun, placeholders_sfcanlData hrun, apply_ite Dependency.leavesOf,
      apply_ite (List.flatMap Predicate.placeholders), ite_subset_iff])

end ForecastOnly

namespace Replay

variable {c : Context}

/-- The forecast waits for start files of the data-assimilation run only. -/
theorem placeholders_forecastInputs :
    (Dependency.leavesOf (forecastInputs c)).flatMap Predicate.placeholders ⊆
      ["ROTDIR", "PDY", "HH"] := by
  have hgdas : Plain "gdas" := by decide
  have hsfc := Template.placeholders_of_plain (by decide : Plain "INPUT/sfc_data.tile6.nc")
  have hinc := Template.placeholders_of_plain (by decide : Plain "atminc.nc")
  unfold forecastInputs
  split <;> simp [Template.placeholders_rotdirPath hgdas, Template.placeholders_rotdirFile hgdas,
    hsfc, hinc, List.subset_def]

/-- Every description of a replay experiment uses only the placeholders the graph binds. -/
theorem describe_placeholdersKnown (hb : c.base.Plain) (hi : Plain c.features.icdump)
    {t : TaskKind} {s : TaskSpec} (h : describe c t = .ok s) : s.PlaceholdersKnown := by
  have hgdas : Plain "gdas" := by decide
  have hgate : Template.placeholders "${ARCHIVE_TO_HPSS}" = ["ARCHIVE_TO_HPSS"] := by
    rw [Template.placeholders_eq_scanFor]; decide
  cases t <;> simp only [describe, pure, Except.pure, Except.ok.injEq] at h
  case getic => exact h ▸ Staging.getic_placeholdersKnown hb hi
  case post => exact Products.post_placeholdersKnown hb h
  case vrfy => exact h ▸ Products.vrfy_placeholdersKnown hb
  case metp => exact h ▸ Products.metp_placeholdersKnown hb
  case fcst =>
    subst h
    refine .of_runsOnce rfl ?_
    have hin := placeholders_forecastInputs (c := c)
    simp only [TaskSpec.placeholders, TaskSpec.leaves, TaskSpec.dependency_dependsOn,
      TaskSpec.env_dependsOn, Context.placeholders_spec_env hb, List.append_subset] at hin ⊢
    refine ⟨by simp +decide, fun x hx => ?_⟩
    have hx := hin hx
    simp only [List.mem_cons, List.not_mem_nil, or_false] at hx
    rcases hx with rfl | rfl | rfl <;> simp +decide
  case gomg =>
    have hgrid := hb.stringOr "SUFFIX" (d := "") (by decide)
    subst h
    refine .of_runsOnce rfl ?_
    simp +decide [TaskSpec.placeholders, TaskSpec.leaves, hb,
      Template.placeholders_rotdirFile hgdas, Template.placeholders_of_plain,
      Template.placeholders_plain_append, hgrid]
  case init =>
    subst h
    split <;> exact .of_runsOnce rfl (by simp +decide [TaskSpec.placeholders, TaskSpec.leaves, hb])
  -- kinds a replay experiment does not describe
  case coupledIc | getic4omg | getfcst | aerosolInit | eget | atmanalprep | atmanalrun
    | atmanalpost | anal | analcalc | waveinit | waveprep | ocnpost | eobs | eomg | ediag | eupd
    | atmensanalprep | atmensanalrun | atmensanalpost | ecen | esfc | efcs | epos | earc
    | wavepostsbs | wavepostpnt | wavepostbndpnt | wavepostbndpntbll | wavegempak
    | waveawipsbulls | waveawipsgridded | postsnd | gempak | awips | wafs | wafsgcip | wafsgrib2
    | wafsgrib20p25 | wafsblending | wafsblending0p25 | enspost | ergpos | archerg =>
    cases h
  -- the rules that wait for restarts, logs, tasks and cycles
  all_goals
    subst h
    exact .of_runsOnce rfl (by simp +decide [TaskSpec.placeholders, TaskSpec.leaves, hb,
      Staging.placeholders_restartCoupler hgdas, Staging.placeholders_dumpStatus hb,
      Template.placeholders_rotdirFile hgdas, Template.placeholders_of_plain,
      Products.archiveGate, hgate, apply_ite Dependency.leavesOf, apply_ite Dependency.leaves,
      apply_ite (List.flatMap Predicate.placeholders), ite_subset_iff])

end Replay

namespace Omf

variable {c : Context}

/-- The previous cycle's forecast files name the run's directory and the cycle's time. -/
theorem placeholders_backgroundFiles :
    (backgroundFiles.children.flatMap Dependency.leaves).flatMap Predicate.placeholders =
      ["ROTDIR", "PDY", "HH", "HH", "ROTDIR", "PDY", "HH", "HH"] := by
  have hgdas : Plain "gdas" := by decide
  have hatm := Template.placeholders_of_plain (by decide : Plain "atmf006.nc")
  have hsfc := Template.placeholders_of_plain (by decide : Plain "sfcf006.nc")
  simp [backgroundFiles, Template.placeholders_rotdirFile hgdas, hatm, hsfc]

/-- Every description of an observation-minus-forecast experiment uses only the placeholders
the graph binds. -/
theorem describe_placeholdersKnown (hb : c.base.Plain) {t : TaskKind} {s : TaskSpec}
    (h : describe c t = .ok s) : s.PlaceholdersKnown := by
  cases t <;> simp only [describe, pure, Except.pure, Except.ok.injEq] at h
  case getfcst | prep | gomg | analdiag | archomg =>
    subst h
    exact .of_runsOnce rfl (by simp +decide [TaskSpec.placeholders, TaskSpec.leaves, hb,
      placeholders_backgroundFiles, apply_ite Dependency.leavesOf,
      apply_ite (List.flatMap Predicate.placeholders), ite_subset_iff])
  -- kinds an observation-minus-forecast experiment does not describe
  all_goals cases h

end Omf

/-- The previous cycle's variables add no placeholder to a description. -/
theorem TaskSpec.PlaceholdersKnown.withPrevious {s : TaskSpec} (h : s.PlaceholdersKnown)
    (d : Span) :
    ({ s with env := s.env ++ previousCycleBindings d } : TaskSpec).PlaceholdersKnown := by
  refine ⟨fun x hx => h.placeholders ?_, h.var⟩
  simpa [TaskSpec.placeholders, TaskSpec.leaves, previousCycleBindings_placeholders] using hx

namespace EnsRegrid

variable {c : Context}

theorem describeOwn_placeholdersKnown (hb : c.base.Plain) {t : TaskKind} {s : TaskSpec}
    (h : describeOwn c t = .ok s) : s.PlaceholdersKnown := by
  cases t <;> simp only [describeOwn, pure, Except.pure, Except.ok.injEq] at h
  case eget => exact Staging.eget_placeholdersKnown hb h
  case enspost =>
    have hgrp := EnvBinding.placeholders_fanOutVar "ENSGRP" (v := "grp") (by decide)
    obtain ⟨fan, hfan, h⟩ := exists_ok_of_bind_ok h
    obtain ⟨vs, rfl⟩ := Staging.memberFanOut_eq hfan
    obtain rfl := Except.ok.inj h
    refine .of_fannedOut (by simp; decide) ?_
    simp +decide [TaskSpec.placeholders, TaskSpec.leaves, hb, hgrp]
  case ergpos | archerg =>
    subst h
    exact .of_runsOnce rfl (by simp +decide [TaskSpec.placeholders, TaskSpec.leaves, hb])
  -- kinds an ensemble regridding experiment does not describe
  all_goals cases h

/-- Every description of an ensemble regridding experiment uses only the placeholders the graph
binds. -/
theorem describe_placeholdersKnown (hb : c.base.Plain) {t : TaskKind} {s : TaskSpec}
    (h : describe c t = .ok s) : s.PlaceholdersKnown := by
  obtain ⟨s₀, hs₀, h⟩ := exists_ok_of_bind_ok h
  obtain rfl := Except.ok.inj h
  exact (describeOwn_placeholdersKnown hb hs₀).withPrevious _

end EnsRegrid

/-- Every mode describes tasks that use only the placeholders the graph binds, given a base
without `$` in its texts and a run of initial conditions whose name holds none. -/
theorem Mode.describe_placeholdersKnown {m : Mode} {c : Context} (hb : c.base.Plain)
    (hi : Plain c.features.icdump) {t : TaskKind} {s : TaskSpec} (h : m.describe c t = .ok s) :
    s.PlaceholdersKnown := by
  cases m
  case cycled => exact Cycled.describe_placeholdersKnown hb hi h
  case forecastOnly => exact ForecastOnly.describe_placeholdersKnown hb hi h
  case replay => exact Replay.describe_placeholdersKnown hb hi h
  case omf => exact Omf.describe_placeholdersKnown hb h
  case ensRegrid => exact EnsRegrid.describe_placeholdersKnown hb h

end CycledWorkflow
