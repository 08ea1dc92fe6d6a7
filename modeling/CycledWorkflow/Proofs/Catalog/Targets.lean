import CycledWorkflow.Proofs.Catalog.Described
import Mathlib.Logic.Basic
/-!
# Where a description's references point

A description refers to other tasks by name. Such a reference *resolves* in a plan when the
name is that of a planned entry, in the form the entry is referred to by: a task condition
names a task that runs once, a metatask condition names the metatask of a task that fans
out. A reference within the same cycle must moreover point backwards in one fixed order of
the kinds of task (`TaskKind.sameCycleOrder`), the same for every mode and both groups; this
is what keeps the same-cycle dependencies free of loops.

This module states the notion (`ResolvesIn`), rewriting rules that decide it for the names the
rules of each mode use, and the facts for the rules several modes share: post-processing,
verification, products and archiving downstream of the forecast, and the staging of initial
conditions and ensemble members.

Main statements: `resolvesIn_task` and `resolvesIn_metatask` (a reference by entry name
resolves exactly when the entry is planned with the right shape and, within the cycle, comes
earlier), and one statement per shared rule that its references resolve.
-/

namespace CycledWorkflow

/-! ### The same-cycle order -/

namespace TaskKind

/-- An order of the kinds of task that every dependency within one cycle follows, in every
mode: a task waits within its own cycle only for kinds listed before its own. The waits of the
long-forecast group on the data-assimilation group follow it too. -/
def sameCycleOrder : List TaskKind :=
  [.coupledIc, .getic, .getfcst, .init, .aerosolInit, .eget, .enspost, .ergpos, .archerg,
   .prep, .atmanalprep, .atmanalrun, .atmanalpost, .anal, .sfcanl, .analcalc, .gldas,
   .waveinit, .waveprep, .fcst, .getic4omg, .gomg, .analdiag, .archomg, .post, .ocnpost,
   .vrfy, .metp, .eobs, .eomg, .ediag, .eupd, .atmensanalprep, .atmensanalrun,
   .atmensanalpost, .ecen, .esfc, .efcs, .echgres, .analinc, .epos, .earc,
   .wavepostbndpnt, .wavepostbndpntbll, .wavepostsbs, .wavepostpnt, .wavegempak,
   .waveawipsbulls, .waveawipsgridded, .postsnd, .gempak, .awips, .wafs, .wafsgcip,
   .wafsgrib2, .wafsgrib20p25, .wafsblending, .wafsblending0p25, .arch]

/-- The position of a kind in the same-cycle order. -/
def sameCycleRank (k : TaskKind) : Nat := sameCycleOrder.idxOf k

/-- A kind is in a switched list exactly when the switch is on and the list holds it. -/
@[simp] theorem mem_listIf {k : TaskKind} {cond : Bool} {ks : List TaskKind} :
    k ∈ listIf cond ks ↔ cond = true ∧ k ∈ ks := by
  cases cond <;> simp [listIf]

end TaskKind

/-! ### Resolving a reference -/

/-- A condition of a task of kind `t` resolves in a plan: a task condition names a planned
task that runs once, a metatask condition the metatask of a planned task that fans out, and
either, when it waits within the same cycle, names a kind earlier than `t` in the same-cycle
order. Conditions on files, cycles and texts refer to no task. -/
def ResolvesIn (p : TaskPlan) (t : TaskKind) : Predicate → Prop
  | .task r offset => ∃ g k, r = taskName g k ∧ k.fanned = false ∧ p.contains g k = true ∧
      (Graph.sameCycle offset = true → k.sameCycleRank < t.sameCycleRank)
  | .metatask r offset => ∃ g k, r = entryName g k ∧ k.fanned = true ∧ p.contains g k = true ∧
      (Graph.sameCycle offset = true → k.sameCycleRank < t.sameCycleRank)
  | .data _ | .cycleExists _ _ | .strEq _ _ => True

section Resolves

variable {p : TaskPlan} {t : TaskKind}

/-- A task condition by full name resolves exactly when the task is planned, runs once and,
within the cycle, comes earlier. -/
@[simp] theorem resolvesIn_task (g : CycleGroup) (k : TaskKind) (offset : Option Span) :
    ResolvesIn p t (.task (taskName g k) offset) ↔ k.fanned = false ∧ p.contains g k = true ∧
      (Graph.sameCycle offset = true → k.sameCycleRank < t.sameCycleRank) := by
  constructor
  · rintro ⟨g', k', h, hf, hc, hr⟩
    obtain ⟨rfl, rfl⟩ := taskName_inj h
    exact ⟨hf, hc, hr⟩
  · rintro ⟨hf, hc, hr⟩
    exact ⟨g, k, rfl, hf, hc, hr⟩

/-- A metatask condition by entry name resolves exactly when the task is planned, fans out
and, within the cycle, comes earlier. -/
@[simp] theorem resolvesIn_metatask (g : CycleGroup) (k : TaskKind) (offset : Option Span) :
    ResolvesIn p t (.metatask (entryName g k) offset) ↔ k.fanned = true ∧ p.contains g k = true ∧
      (Graph.sameCycle offset = true → k.sameCycleRank < t.sameCycleRank) := by
  constructor
  · rintro ⟨g', k', h, hf, hc, hr⟩
    obtain ⟨rfl, rfl⟩ := entryName_inj h
    exact ⟨hf, hc, hr⟩
  · rintro ⟨hf, hc, hr⟩
    exact ⟨g, k, rfl, hf, hc, hr⟩

@[simp] theorem resolvesIn_data (c : DataCheck) : ResolvesIn p t (.data c) := trivial

@[simp] theorem resolvesIn_cycleExists (d : Span) (negate : Bool) :
    ResolvesIn p t (.cycleExists d negate) := trivial

@[simp] theorem resolvesIn_strEq (l r : String) : ResolvesIn p t (.strEq l r) := trivial

end Resolves

/-- Every condition of a list resolves. -/
def AllResolve (p : TaskPlan) (t : TaskKind) (l : List Predicate) : Prop :=
  ∀ q ∈ l, ResolvesIn p t q

section AllResolve

variable {p : TaskPlan} {t : TaskKind}

@[simp] theorem allResolve_nil : AllResolve p t [] := by simp [AllResolve]

@[simp] theorem allResolve_cons (q : Predicate) (l : List Predicate) :
    AllResolve p t (q :: l) ↔ ResolvesIn p t q ∧ AllResolve p t l := List.forall_mem_cons

@[simp] theorem allResolve_append (l₁ l₂ : List Predicate) :
    AllResolve p t (l₁ ++ l₂) ↔ AllResolve p t l₁ ∧ AllResolve p t l₂ := List.forall_mem_append

/-- The conditions added under a switch need to resolve only when the switch is on. -/
@[simp] theorem allResolve_ite (cond : Prop) [Decidable cond] (l : List Predicate) :
    AllResolve p t (if cond then l else []) ↔ (cond → AllResolve p t l) := by
  split <;> simp [*]

end AllResolve

/-! ### The names the rules use -/

/-- Post-processing and the METplus cases fan out under their own task names. -/
@[simp] theorem taskName_post (g : CycleGroup) : taskName g .post = entryName g .post := rfl

@[simp] theorem taskName_metp (g : CycleGroup) : taskName g .metp = entryName g .metp := rfl

namespace Context

@[simp] theorem name_eq (c : Context) (k : TaskKind) : c.name k = taskName c.group k := rfl

@[simp] theorem has_eq (c : Context) (k : TaskKind) : c.has k = c.plan.contains c.group k := rfl

@[simp] theorem hasIn_eq (c : Context) (g : CycleGroup) (k : TaskKind) :
    c.hasIn g k = c.plan.contains g k := rfl

@[simp] theorem metataskName_egmn (c : Context) : c.metataskName "egmn" = entryName c.group .eget :=
  rfl

@[simp] theorem metataskName_efmn (c : Context) : c.metataskName "efmn" = entryName c.group .efcs :=
  rfl

@[simp] theorem metataskName_epmn (c : Context) : c.metataskName "epmn" = entryName c.group .epos :=
  rfl

@[simp] theorem metataskName_eamn (c : Context) : c.metataskName "eamn" = entryName c.group .earc :=
  rfl

@[simp] theorem metataskName_ermn (c : Context) :
    c.metataskName "ermn" = entryName c.group .enspost := rfl

end Context

/-- The ensemble post-processing of the data-assimilation group, named outright by the rules of
both groups. -/
@[simp] theorem gdasepmn_eq : ("gdasepmn" : String) = entryName .gdas .epos := rfl

/-- The ensemble forecasts of the data-assimilation group, named outright by the rules of both
groups. -/
@[simp] theorem gdasefmn_eq : ("gdasefmn" : String) = entryName .gdas .efcs := rfl

/-! ### Offsets -/

@[simp] theorem sameCycle_none : Graph.sameCycle none = true := rfl

@[simp] theorem sameCycle_previousCycle : Graph.sameCycle (some Span.previousCycle) = false := rfl

/-- An offset of a nonzero span back is not within the cycle. -/
theorem sameCycle_neg {d : Span} (h : d.seconds ≠ 0) : Graph.sameCycle (some d.neg) = false := by
  simp [Graph.sameCycle, Span.isZero, Span.neg, h]

/-! ### Rules shared by several modes -/

namespace Products

variable {c : Context}

/-- Post-processing fans out under its own name and waits for the forecast's logs, and when
allowed for the forecast itself. -/
theorem post_ok {orForecast : Bool} {s : TaskSpec} (h : post c orForecast = .ok s) :
    ∃ fan env, fan.metatask = c.name .post ∧
      s = { group := c.group, task := .post, cadence := c.group.defaultCadence,
            dependency := ((Prerequisites.empty.data
              (DataCheck.new (Template.rotdirFile c.group.label "log${dep}.txt"))).taskIf
                orForecast (c.name .fcst)).any,
            env, fanOut := some fan } := by
  unfold post at h
  cases hh : postHours c with
  | error e => simp [hh, bind, Except.bind] at h
  | ok hours =>
    cases he : hours.isEmpty
    · cases hn : postGroupCount c with
      | error e => simp [hh, he, hn, bind, Except.bind] at h
      | ok n =>
        simp only [hh, he, hn, bind, Except.bind, pure, Except.pure, Bool.false_eq_true,
          ↓reduceIte, Except.ok.injEq] at h
        exact ⟨_, _, rfl, h.symm⟩
    · simp [hh, he, bind, Except.bind, throw, throwThe, MonadExceptOf.throw] at h

theorem post_names {orForecast : Bool} {s : TaskSpec} (h : post c orForecast = .ok s) :
    Names c .post s := by
  obtain ⟨fan, env, hfan, rfl⟩ := post_ok h
  exact ⟨rfl, rfl, by simp [TaskKind.fanned, hfan]⟩

theorem post_cadence {orForecast : Bool} {s : TaskSpec} (h : post c orForecast = .ok s) :
    s.cadence = c.group.defaultCadence := by
  obtain ⟨fan, env, -, rfl⟩ := post_ok h
  rfl

theorem post_resolves {orForecast : Bool} {s : TaskSpec} (h : post c orForecast = .ok s)
    (hfcst : orForecast = true → c.plan.contains c.group .fcst = true) :
    AllResolve c.plan .post s.leaves := by
  obtain ⟨fan, env, -, rfl⟩ := post_ok h
  cases orForecast
  · simp [TaskSpec.leaves]
  · simpa +decide [TaskSpec.leaves] using hfcst rfl

theorem vrfy_resolves (hpost : c.plan.contains c.group .post = true) :
    AllResolve c.plan .vrfy (vrfy c).leaves := by
  simp +decide [vrfy, TaskSpec.leaves, hpost]

/-- The METplus cases wait for this cycle's post-processing and for the archive one interval
back, which is not within the cycle as long as the interval is not empty. -/
theorem metp_resolves (hpost : c.plan.contains c.group .post = true)
    (harch : c.plan.contains c.group .arch = true) (hi : c.interval.seconds ≠ 0) :
    AllResolve c.plan .metp (metp c).leaves := by
  simp +decide [metp, TaskSpec.leaves, hpost, harch, sameCycle_neg hi]

/-- A list of tasks that plans each product's inputs along with it: the wave products need the
wave post-processing, the blended world-area forecasts their grids. -/
structure Inputs (ts : List TaskKind) : Prop where
  wavepostsbs_of_wavegempak : .wavegempak ∈ ts → .wavepostsbs ∈ ts
  wavepostsbs_of_waveawipsgridded : .waveawipsgridded ∈ ts → .wavepostsbs ∈ ts
  wavepostsbs_of_waveawipsbulls : .waveawipsbulls ∈ ts → .wavepostsbs ∈ ts
  wavepostpnt_of_waveawipsbulls : .waveawipsbulls ∈ ts → .wavepostpnt ∈ ts
  wafsgrib2_of_wafsblending : .wafsblending ∈ ts → .wafsgrib2 ∈ ts
  wafsgrib20p25_of_wafsblending0p25 : .wafsblending0p25 ∈ ts → .wafsgrib20p25 ∈ ts

theorem product_names {t : TaskKind} {s : TaskSpec} (h : product c t = some s) : Names c t s := by
  cases t <;> simp [product, productDependency] at h <;> subst h <;> exact ⟨rfl, rfl, rfl⟩

theorem product_cadence {t : TaskKind} {s : TaskSpec} (h : product c t = some s) :
    s.cadence = c.group.defaultCadence := by
  cases t <;> simp [product, productDependency] at h <;> subst h <;> rfl

theorem product_resolves {ts : List TaskKind} {t : TaskKind} {s : TaskSpec}
    (h : product c t = some s) (hts : ∀ k ∈ ts, c.plan.contains c.group k = true)
    (ht : t ∈ ts) (hin : Inputs ts) (hfcst : c.plan.contains c.group .fcst = true) :
    AllResolve c.plan t s.leaves := by
  cases t <;> simp [product, productDependency] at h <;> subst h
  case wavegempak =>
    simpa +decide [TaskSpec.leaves] using hts _ (hin.wavepostsbs_of_wavegempak ht)
  case waveawipsgridded =>
    simpa +decide [TaskSpec.leaves] using hts _ (hin.wavepostsbs_of_waveawipsgridded ht)
  case waveawipsbulls =>
    simpa +decide [TaskSpec.leaves] using
      ⟨hts _ (hin.wavepostsbs_of_waveawipsbulls ht), hts _ (hin.wavepostpnt_of_waveawipsbulls ht)⟩
  case wafsblending =>
    simpa +decide [TaskSpec.leaves] using hts _ (hin.wafsgrib2_of_wafsblending ht)
  case wafsblending0p25 =>
    simpa +decide [TaskSpec.leaves] using hts _ (hin.wafsgrib20p25_of_wafsblending0p25 ht)
  -- the remaining products wait for the forecast, or for post-processing when it runs
  all_goals
    by_cases hpost : c.plan.contains c.group .post = true <;>
      simp +decide [TaskSpec.leaves, hfcst, hpost]

/-- The archive waits for verification or post-processing, the METplus cases and the tape
gate when post-processing runs, and otherwise for the forecast: every reference is guarded by
the plan itself, except the forecast's. -/
theorem archAfterProducts_resolves (hfcst : c.plan.contains c.group .fcst = true) :
    AllResolve c.plan .arch (archAfterProducts c).leaves := by
  unfold archAfterProducts
  by_cases hpost : c.plan.contains c.group .post = true
  · by_cases hvrfy : c.plan.contains c.group .vrfy = true <;>
      cases hmetp : c.plan.contains c.group .metp <;>
      simp +decide [TaskSpec.leaves, archiveGate, hpost, hvrfy, hmetp]
  · simp +decide [TaskSpec.leaves, hfcst, hpost]

end Products

namespace Staging

variable {c : Context}

/-- Fetching initial conditions waits for the previous cycle's forecast of the
data-assimilation group, which that group always plans. -/
theorem getic_resolves (hfcst : c.plan.contains .gdas .fcst = true) :
    AllResolve c.plan .getic (getic c).leaves := by
  simp +decide [getic, TaskSpec.leaves, hfcst]

/-- A member fan-out is the metatask of its suffix in the group. -/
theorem memberFanOut_metatask {suffix sizeKey : String} {first : Nat} {f : FanOut}
    (h : memberFanOut c suffix sizeKey first = .ok f) : f.metatask = c.metataskName suffix := by
  unfold memberFanOut at h
  cases hm : c.base.count? "NMEM_ENKF" with
  | error e => simp [hm, bind, Except.bind] at h
  | ok members =>
    cases hs : c.base.count? sizeKey with
    | error e => simp [hm, hs, bind, Except.bind] at h
    | ok size =>
      by_cases hz : size.getD 10 = 0
      · simp [hm, hs, hz, bind, Except.bind, throw, throwThe, MonadExceptOf.throw] at h
      · cases hg : memberGroups (members.getD 80) (size.getD 10) first with
        | error e => simp [hm, hs, hz, hg, bind, Except.bind] at h
        | ok groups =>
          simp only [hm, hs, hz, hg, bind, Except.bind, pure, Except.pure, ↓reduceIte,
            Except.ok.injEq] at h
          rw [← h]
          rfl

/-- Fetching ensemble members fans out over member groups and waits for no task. -/
theorem eget_ok {s : TaskSpec} (h : eget c = .ok s) :
    ∃ fan env, fan.metatask = entryName c.group .eget ∧
      s = { group := c.group, task := .eget, cadence := c.group.defaultCadence,
            dependency := ((Prerequisites.empty.data (DataCheck.new
              "${ROTDIR}/enkfgdas.${PDY}/${HH}/atmos/mem001/gdas.t${HH}z.atmf006.nc")).data
              (DataCheck.new
                "${ROTDIR}/enkfgdas.${PDY}/${HH}/atmos/mem001/gdas.t${HH}z.sfcf006.nc")).none,
            env, fanOut := some fan } := by
  unfold eget at h
  cases hf : memberFanOut c "egmn" "NMEM_EARCGRP" 1 with
  | error e => simp [hf, bind, Except.bind] at h
  | ok fan =>
    simp only [hf, bind, Except.bind, pure, Except.pure, Except.ok.injEq] at h
    exact ⟨fan, _, memberFanOut_metatask hf, h.symm⟩

theorem eget_names {s : TaskSpec} (h : eget c = .ok s) : Names c .eget s := by
  obtain ⟨fan, env, hfan, rfl⟩ := eget_ok h
  exact ⟨rfl, rfl, by simp [TaskKind.fanned, hfan]⟩

theorem eget_cadence {s : TaskSpec} (h : eget c = .ok s) : s.cadence = c.group.defaultCadence := by
  obtain ⟨fan, env, -, rfl⟩ := eget_ok h
  rfl

theorem eget_resolves {s : TaskSpec} (h : eget c = .ok s) :
    AllResolve c.plan .eget s.leaves := by
  obtain ⟨fan, env, -, rfl⟩ := eget_ok h
  simp [TaskSpec.leaves]

end Staging

end CycledWorkflow
