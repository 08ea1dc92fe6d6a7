import CycledWorkflow.Proofs.Catalog.Targets
import CycledWorkflow.Catalog.Mode.Cycled
/-!
# What the descriptions of a cycled experiment refer to

A cycled experiment plans, for each group on a running cadence, a fixed list of tasks
(`Cycled.tasksOf`). Many rules name a task without asking the plan whether it runs: the
analysis names preparation, the ensemble forecasts the recentering, and so on. Such a rule is
only sound because the task list always plans the named task along with the one that names
it. `Cycled.Closed` collects these facts about a task list, and `tasksOf_closed` proves them of
both groups' lists once, whatever the switches.

From these facts and the shared rules, every reference made by the description of a planned
task resolves in the plan (`describe_resolves`), and every description names its own entry as
its kind requires (`describe_names`).

Main statements: `tasksOf_closed`, `describe_names` and `describe_resolves`.
-/

namespace CycledWorkflow

namespace Cycled

/-- The tasks a cycled experiment plans for a group. -/
def tasksOf (f : Features) : CycleGroup → List TaskKind
  | .gdas => gdasTasks f
  | .gfs => gfsTasks f

/-- A group of a retained cycled plan runs a task exactly when the group is kept and its list
holds the task. -/
@[simp] theorem contains_plan (f : Features) (keep : CycleGroup → Bool) (g : CycleGroup)
    (k : TaskKind) :
    ((plan f).retainGroups keep).contains g k = true ↔ keep g = true ∧ k ∈ tasksOf f g := by
  cases g <;> simp [plan, tasksOf]

/-! ### The task lists are closed -/

/-- What a cycled task list plans along with its tasks: the forecast, post-processing and the
archive always, and with each task the tasks its description names without asking the plan. -/
structure Closed (ts : List TaskKind) : Prop extends Products.Inputs ts where
  fcst : .fcst ∈ ts
  post : .post ∈ ts
  arch : .arch ∈ ts
  getic_of_init : .init ∈ ts → .getic ∈ ts
  prep_of_anal : .anal ∈ ts → .prep ∈ ts
  prep_of_atmanalprep : .atmanalprep ∈ ts → .prep ∈ ts
  prep_of_eobs : .eobs ∈ ts → .prep ∈ ts
  prep_of_atmensanalprep : .atmensanalprep ∈ ts → .prep ∈ ts
  atmanalprep_of_atmanalrun : .atmanalrun ∈ ts → .atmanalprep ∈ ts
  atmanalrun_of_atmanalpost : .atmanalpost ∈ ts → .atmanalrun ∈ ts
  anal_of_analdiag : .analdiag ∈ ts → .anal ∈ ts
  atmanalrun_of_sfcanl : .sfcanl ∈ ts → .anal ∉ ts → .atmanalrun ∈ ts
  sfcanl_of_analcalc : .analcalc ∈ ts → .sfcanl ∈ ts
  sfcanl_of_gldas : .gldas ∈ ts → .sfcanl ∈ ts
  waveinit_of_waveprep : .waveprep ∈ ts → .waveinit ∈ ts
  eobs_of_eomg : .eomg ∈ ts → .eobs ∈ ts
  eobs_of_ediag : .ediag ∈ ts → .eobs ∈ ts
  eomg_of_eupd : .eupd ∈ ts → .ediag ∉ ts → .eomg ∈ ts
  atmensanalprep_of_atmensanalrun : .atmensanalrun ∈ ts → .atmensanalprep ∈ ts
  atmensanalrun_of_atmensanalpost : .atmensanalpost ∈ ts → .atmensanalrun ∈ ts
  analcalc_of_ecen : .ecen ∈ ts → .analcalc ∈ ts
  analcalc_of_esfc : .esfc ∈ ts → .analcalc ∈ ts
  atmensanalpost_of_ecen : .ecen ∈ ts → .eupd ∉ ts → .atmensanalpost ∈ ts
  atmensanalpost_of_esfc : .esfc ∈ ts → .eupd ∉ ts → .atmensanalpost ∈ ts
  ecen_of_efcs : .efcs ∈ ts → .ecen ∈ ts
  esfc_of_efcs : .efcs ∈ ts → .esfc ∈ ts
  efcs_of_epos : .epos ∈ ts → .efcs ∈ ts
  epos_of_earc : .earc ∈ ts → .epos ∈ ts

theorem tasksOf_inputs (f : Features) (g : CycleGroup) : Products.Inputs (tasksOf f g) := by
  constructor <;> cases g <;>
    simp only [tasksOf, gdasTasks, gfsTasks, beforeForecast, afterForecast, hybridShared,
      hybridGdas, wavePosts, TaskKind.mem_listIf, List.mem_append, List.mem_cons,
      List.not_mem_nil, mem_ite, eq_ite_iff, reduceCtorEq, or_false, false_or, and_false,
      or_true, and_true] <;> grind

/-- Both groups' task lists are closed, whatever the switches. -/
theorem tasksOf_closed (f : Features) (g : CycleGroup) : Closed (tasksOf f g) := by
  constructor
  case toInputs => exact tasksOf_inputs f g
  all_goals cases g <;>
    simp only [tasksOf, gdasTasks, gfsTasks, beforeForecast, afterForecast, hybridShared,
      hybridGdas, wavePosts, TaskKind.mem_listIf, List.mem_append, List.mem_cons,
      List.not_mem_nil, mem_ite, eq_ite_iff, reduceCtorEq, or_false, false_or, and_false,
      true_or, or_true, and_true] <;> grind

/-! ### Descriptions -/

section Describe

variable {c : Context}

/-- The ensemble post-processing fans out as the metatask of its kind. -/
theorem ensembleHourGroups_metatask {fan : FanOut} (h : ensembleHourGroups c = .ok fan) :
    fan.metatask = entryName c.group .epos := by
  unfold ensembleHourGroups at h
  obtain ⟨_, -, h⟩ := exists_ok_of_bind_ok h
  obtain ⟨_, -, h⟩ := exists_ok_of_bind_ok h
  obtain ⟨_, -, h⟩ := exists_ok_of_bind_ok h
  obtain ⟨_, -, h⟩ := exists_ok_of_bind_ok h
  simp only [pure, Except.pure, Except.ok.injEq] at h
  rw [← h]
  rfl

/-- Every description names its own entry as its kind requires. -/
theorem describe_names {t : TaskKind} {s : TaskSpec} (h : describe c t = .ok s) : Names c t s := by
  cases t <;> simp only [describe, pure, Except.pure, Except.ok.injEq] at h
  case post => exact Products.post_names h
  case eget => exact Staging.eget_names h
  case efcs =>
    obtain ⟨fan, hfan, h⟩ := exists_ok_of_bind_ok h
    obtain rfl := Except.ok.inj h
    exact ⟨rfl, rfl, by simp [TaskKind.fanned, Staging.memberFanOut_metatask hfan]⟩
  case epos =>
    obtain ⟨fan, hfan, h⟩ := exists_ok_of_bind_ok h
    obtain rfl := Except.ok.inj h
    exact ⟨rfl, rfl, by simp [TaskKind.fanned, ensembleHourGroups_metatask hfan]⟩
  case earc =>
    obtain ⟨fan, hfan, h⟩ := exists_ok_of_bind_ok h
    obtain rfl := Except.ok.inj h
    exact ⟨rfl, rfl, by simp [TaskKind.fanned, Staging.memberFanOut_metatask hfan]⟩
  -- the rules that return one fixed specification, then the products
  all_goals first
    | subst h; exact ⟨rfl, rfl, rfl⟩
    | split at h
      next s' hp =>
        obtain rfl := Except.ok.inj h
        exact Products.product_names hp
      next => cases h

/-- Every description of a cycled experiment runs on its group's cadence. -/
theorem describe_cadence {t : TaskKind} {s : TaskSpec} (h : describe c t = .ok s) :
    s.cadence = c.group.defaultCadence := by
  cases t <;> simp only [describe, pure, Except.pure, Except.ok.injEq] at h
  case post => exact Products.post_cadence h
  case eget => exact Staging.eget_cadence h
  case efcs | epos | earc =>
    obtain ⟨fan, -, h⟩ := exists_ok_of_bind_ok h
    obtain rfl := Except.ok.inj h
    rfl
  all_goals first
    | subst h; rfl
    | split at h
      next s' hp =>
        obtain rfl := Except.ok.inj h
        exact Products.product_cadence hp
      next => cases h

/-- Every reference a description makes resolves in the plan, given that the plan is the cycled
plan of the running groups, the data-assimilation group runs, and the group's interval is not
empty. -/
theorem describe_resolves
    (hp : c.plan = (plan c.features).retainGroups fun g => c.calendar.isValid g.defaultCadence)
    (hg : c.calendar.isValid CycleGroup.gdas.defaultCadence = true) (hi : c.interval.seconds ≠ 0)
    {t : TaskKind} (ht : c.plan.contains c.group t = true) {s : TaskSpec}
    (h : describe c t = .ok s) : AllResolve c.plan t s.leaves := by
  rw [hp, contains_plan] at ht
  obtain ⟨hkeep, ht⟩ := ht
  have hmem : ∀ k ∈ tasksOf c.features c.group, c.plan.contains c.group k = true := fun k hk => by
    rw [hp, contains_plan]
    exact ⟨hkeep, hk⟩
  have hgdas : ∀ k ∈ tasksOf c.features .gdas, c.plan.contains .gdas k = true := fun k hk => by
    rw [hp, contains_plan]
    exact ⟨hg, hk⟩
  have hnot : ∀ k, c.plan.contains c.group k = false → k ∉ tasksOf c.features c.group :=
    fun k hk hm => by simp [hmem k hm] at hk
  have hcl := tasksOf_closed c.features c.group
  have hgd := tasksOf_closed c.features .gdas
  cases t <;> simp only [describe, pure, Except.pure, Except.ok.injEq] at h
  case getic => exact h ▸ Staging.getic_resolves (hgdas _ hgd.fcst)
  case init => simpa +decide [← h, TaskSpec.leaves] using hmem _ (hcl.getic_of_init ht)
  case prep => simp +decide [← h, TaskSpec.leaves, hgdas _ hgd.post]
  case eget => exact Staging.eget_resolves h
  case anal =>
    simp +decide [← h, TaskSpec.leaves, analysisInputs, hmem _ (hcl.prep_of_anal ht)]
  case atmanalprep =>
    simp +decide [← h, TaskSpec.leaves, analysisInputs, hmem _ (hcl.prep_of_atmanalprep ht)]
  case atmanalrun =>
    simpa +decide [← h, TaskSpec.leaves] using hmem _ (hcl.atmanalprep_of_atmanalrun ht)
  case atmanalpost =>
    simpa +decide [← h, TaskSpec.leaves] using hmem _ (hcl.atmanalrun_of_atmanalpost ht)
  case analdiag =>
    simpa +decide [← h, TaskSpec.leaves] using hmem _ (hcl.anal_of_analdiag ht)
  case sfcanl =>
    cases hanal : c.plan.contains c.group .anal
    · have hrun := hmem _ (hcl.atmanalrun_of_sfcanl ht (hnot _ hanal))
      simp +decide [← h, TaskSpec.leaves, hanal, hrun]
    · simp +decide [← h, TaskSpec.leaves, hanal]
  case analcalc =>
    simp +decide [← h, TaskSpec.leaves, hmem _ (hcl.sfcanl_of_analcalc ht)]
  case gldas =>
    simpa +decide [← h, TaskSpec.leaves] using hmem _ (hcl.sfcanl_of_gldas ht)
  case waveinit =>
    subst h
    by_cases hl : c.plan.contains c.group .prep = true
    · simp +decide [TaskSpec.leaves, Context.localOrGdas, hl]
    · by_cases hd : c.plan.contains .gdas .prep = true <;>
        simp +decide [TaskSpec.leaves, Context.localOrGdas, hl, hd]
  case waveprep =>
    simpa +decide [← h, TaskSpec.leaves] using hmem _ (hcl.waveinit_of_waveprep ht)
  case fcst =>
    subst h
    by_cases hl : c.plan.contains c.group .sfcanl = true
    · simp +decide [TaskSpec.leaves, Context.localOrGdas, hl, apply_ite Dependency.leavesOf,
        apply_ite (AllResolve c.plan .fcst)]
    · by_cases hd : c.plan.contains .gdas .sfcanl = true <;>
        simp +decide [TaskSpec.leaves, Context.localOrGdas, hl, hd, apply_ite Dependency.leavesOf,
        apply_ite (AllResolve c.plan .fcst)]
  case post => exact Products.post_resolves h fun _ => hmem _ hcl.fcst
  case vrfy => exact h ▸ Products.vrfy_resolves (hmem _ hcl.post)
  case metp => exact h ▸ Products.metp_resolves (hmem _ hcl.post) (hmem _ hcl.arch) hi
  case eobs =>
    simp +decide [← h, TaskSpec.leaves, hmem _ (hcl.prep_of_eobs ht)]
  case atmensanalprep =>
    simp +decide [← h, TaskSpec.leaves, hmem _ (hcl.prep_of_atmensanalprep ht)]
  case eomg => simpa +decide [← h, TaskSpec.leaves] using hmem _ (hcl.eobs_of_eomg ht)
  case ediag => simpa +decide [← h, TaskSpec.leaves] using hmem _ (hcl.eobs_of_ediag ht)
  case eupd =>
    cases hdiag : c.plan.contains c.group .ediag
    · have homg := hmem _ (hcl.eomg_of_eupd ht (hnot _ hdiag))
      simp +decide [← h, TaskSpec.leaves, hdiag, homg]
    · simp +decide [← h, TaskSpec.leaves, hdiag]
  case atmensanalrun =>
    simpa +decide [← h, TaskSpec.leaves] using hmem _ (hcl.atmensanalprep_of_atmensanalrun ht)
  case atmensanalpost =>
    simpa +decide [← h, TaskSpec.leaves] using hmem _ (hcl.atmensanalrun_of_atmensanalpost ht)
  case echgres => simp +decide [← h, TaskSpec.leaves, hmem _ hcl.fcst]
  case ecen =>
    have hcalc := hmem _ (hcl.analcalc_of_ecen ht)
    cases hupd : c.plan.contains c.group .eupd
    · have hpost := hmem _ (hcl.atmensanalpost_of_ecen ht (hnot _ hupd))
      simp +decide [← h, TaskSpec.leaves, hcalc, hupd, hpost]
    · simp +decide [← h, TaskSpec.leaves, hcalc, hupd]
  case esfc =>
    have hcalc := hmem _ (hcl.analcalc_of_esfc ht)
    cases hupd : c.plan.contains c.group .eupd
    · have hpost := hmem _ (hcl.atmensanalpost_of_esfc ht (hnot _ hupd))
      simp +decide [← h, TaskSpec.leaves, hcalc, hupd, hpost]
    · simp +decide [← h, TaskSpec.leaves, hcalc, hupd]
  case efcs =>
    obtain ⟨fan, -, h⟩ := exists_ok_of_bind_ok h
    obtain rfl := Except.ok.inj h
    simp +decide [TaskSpec.leaves, hmem _ (hcl.ecen_of_efcs ht), hmem _ (hcl.esfc_of_efcs ht)]
  case epos =>
    obtain ⟨fan, -, h⟩ := exists_ok_of_bind_ok h
    obtain rfl := Except.ok.inj h
    simpa +decide [TaskSpec.leaves] using hmem _ (hcl.efcs_of_epos ht)
  case earc =>
    obtain ⟨fan, -, h⟩ := exists_ok_of_bind_ok h
    obtain rfl := Except.ok.inj h
    simpa +decide [TaskSpec.leaves] using hmem _ (hcl.epos_of_earc ht)
  case arch => exact h ▸ Products.archAfterProducts_resolves (hmem _ hcl.fcst)
  -- the remaining kinds are products, or fail to be described
  all_goals
    split at h
    next s' hs =>
      obtain rfl := Except.ok.inj h
      exact Products.product_resolves hs hmem ht hcl.toInputs (hmem _ hcl.fcst)
    next => cases h
end Describe

end Cycled

end CycledWorkflow
