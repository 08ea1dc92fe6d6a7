import CycledWorkflow.Proofs.Catalog.Targets
import CycledWorkflow.Catalog.Mode.ForecastOnly
/-!
# What the descriptions of a forecast-only experiment refer to

A forecast-only experiment plans one list of tasks for its primary group. Its rules name the
staging tasks only when the plan runs them, the forecast unconditionally, and the statistics
tasks in a chain from the preparation of observations. `ForecastOnly.Closed` collects what the
list plans along with each task, and `describe_resolves` shows that every reference of a
description resolves.

Main statements: `tasks_closed`, `describe_names` and `describe_resolves`.
-/

namespace CycledWorkflow

namespace ForecastOnly

/-- Only the primary group is planned, with the experiment's tasks, when it is kept. -/
@[simp] theorem contains_plan (f : Features) (primary : CycleGroup) (keep : CycleGroup → Bool)
    (g : CycleGroup) (k : TaskKind) :
    ((plan f primary).retainGroups keep).contains g k = true ↔
      keep g = true ∧ primary = g ∧ k ∈ tasks f := by
  simp [plan]

/-! ### The task list is closed -/

/-- What a forecast-only task list plans along with its tasks. -/
structure Closed (ts : List TaskKind) : Prop extends Products.Inputs ts where
  fcst : .fcst ∈ ts
  arch : .arch ∈ ts
  prep_of_gomg : .gomg ∈ ts → .prep ∈ ts
  gomg_of_analdiag : .analdiag ∈ ts → .gomg ∈ ts
  analdiag_of_archomg : .archomg ∈ ts → .analdiag ∈ ts
  post_of_vrfy : .vrfy ∈ ts → .post ∈ ts
  post_of_metp : .metp ∈ ts → .post ∈ ts

theorem tasks_inputs (f : Features) : Products.Inputs (tasks f) := by
  constructor <;> simp [tasks, TaskKind.listIf, mem_ite] <;> grind

theorem tasks_closed (f : Features) : Closed (tasks f) := by
  constructor
  case toInputs => exact tasks_inputs f
  all_goals simp [tasks, TaskKind.listIf, mem_ite] <;> grind

/-! ### Descriptions -/

section Describe

variable {c : Context}

/-- Every description names its own entry as its kind requires. -/
theorem describe_names {t : TaskKind} {s : TaskSpec} (h : describe c t = .ok s) : Names c t s := by
  cases t <;> simp only [describe, pure, Except.pure, Except.ok.injEq] at h
  case post => exact Products.post_names h
  -- the rules that return one fixed specification, then the products
  all_goals first
    | subst h; exact ⟨rfl, rfl, rfl⟩
    | split at h
      next s' hp =>
        obtain rfl := Except.ok.inj h
        exact Products.product_names hp
      next => cases h

/-- The kinds of task that run on the statistics cadence. -/
def statisticsKinds : List TaskKind := [.getic4omg, .prep, .analinc, .gomg, .analdiag, .archomg]

/-- The statistics tasks of a forecast-only experiment run on the statistics cadence, every
other task on its group's. -/
theorem describe_cadence {t : TaskKind} {s : TaskSpec} (h : describe c t = .ok s) :
    s.cadence = if t ∈ statisticsKinds then .gomg else c.group.defaultCadence := by
  cases t <;> simp only [describe, pure, Except.pure, Except.ok.injEq] at h
  case post => simpa [statisticsKinds] using Products.post_cadence h
  all_goals first
    | subst h; simp [statisticsKinds, Context.spec_cadence, Products.vrfy, Products.metp]
    | split at h
      next s' hp =>
        obtain rfl := Except.ok.inj h
        simpa [statisticsKinds] using Products.product_cadence hp
      next => cases h

/-- The statistics tasks are planned only with the statistics on. -/
theorem doOmf_of_mem_tasks {f : Features} {t : TaskKind} (ht : t ∈ tasks f)
    (hs : t ∈ statisticsKinds) : f.doOmf = true := by
  cases hf : f.doOmf
  · simp only [statisticsKinds, List.mem_cons, List.not_mem_nil, or_false] at hs
    -- with the statistics off, no part of the task list holds them; what simp leaves is the
    -- post-processing switches contradicting themselves
    rcases hs with rfl | rfl | rfl | rfl | rfl | rfl <;>
      simp [tasks, TaskKind.listIf, mem_ite, hf] at ht <;> grind
  · rfl

/-- Every reference a description makes resolves in the plan, given that the plan is the
forecast-only plan of the running primary group and the group's interval is not empty. -/
theorem describe_resolves {primary : CycleGroup}
    (hp : c.plan = (plan c.features primary).retainGroups fun g =>
      c.calendar.isValid g.defaultCadence)
    (hi : c.interval.seconds ≠ 0) {t : TaskKind} (ht : c.plan.contains c.group t = true)
    {s : TaskSpec} (h : describe c t = .ok s) : AllResolve c.plan t s.leaves := by
  rw [hp, contains_plan] at ht
  obtain ⟨hkeep, hprimary, ht⟩ := ht
  have hmem : ∀ k ∈ tasks c.features, c.plan.contains c.group k = true := fun k hk => by
    rw [hp, contains_plan]
    exact ⟨hkeep, hprimary, hk⟩
  have hcl := tasks_closed c.features
  have hfcst := hmem _ hcl.fcst
  cases t <;> simp only [describe, pure, Except.pure, Except.ok.injEq] at h
  case coupledIc => simp [← h, TaskSpec.leaves]
  case getic => simp [← h, TaskSpec.leaves]
  case getic4omg => simp +decide [← h, TaskSpec.leaves, hfcst]
  case init =>
    subst h
    by_cases hget : c.plan.contains c.group .getic = true <;>
      simp +decide [TaskSpec.leaves, initialConditions, hget]
  case aerosolInit | waveinit =>
    subst h
    by_cases hcpl : c.plan.contains c.group .coupledIc = true
    · simp +decide [TaskSpec.leaves, hcpl]
    · by_cases hinit : c.plan.contains c.group .init = true <;>
        simp +decide [TaskSpec.leaves, hcpl, hinit]
  case fcst =>
    subst h
    by_cases hget : c.features.warmStart = true ∧ c.plan.contains c.group .getic = true
    · simp +decide [TaskSpec.leaves, hget.1, hget.2]
    · simp +decide [TaskSpec.leaves, hget]
  case prep => simp +decide [← h, TaskSpec.leaves, hfcst]
  case analinc => simp +decide [← h, TaskSpec.leaves, hfcst]
  case gomg => simpa +decide [← h, TaskSpec.leaves] using hmem _ (hcl.prep_of_gomg ht)
  case analdiag =>
    simpa +decide [← h, TaskSpec.leaves] using hmem _ (hcl.gomg_of_analdiag ht)
  case archomg =>
    simpa +decide [← h, TaskSpec.leaves] using hmem _ (hcl.analdiag_of_archomg ht)
  case post => exact Products.post_resolves h fun hf => absurd hf Bool.false_ne_true
  case vrfy => exact h ▸ Products.vrfy_resolves (hmem _ (hcl.post_of_vrfy ht))
  case metp =>
    exact h ▸ Products.metp_resolves (hmem _ (hcl.post_of_metp ht)) (hmem _ hcl.arch) hi
  case arch =>
    subst h
    by_cases hpost : c.plan.contains c.group .post = true
    · by_cases hvrfy : c.plan.contains c.group .vrfy = true <;>
        simp +decide [TaskSpec.leaves, Products.archiveGate, hpost, hvrfy]
    · simp +decide [TaskSpec.leaves, hpost, hfcst]
  -- the remaining kinds are products, or fail to be described
  all_goals
    split at h
    next s' hs =>
      obtain rfl := Except.ok.inj h
      exact Products.product_resolves hs hmem ht hcl.toInputs hfcst
    next => cases h

end Describe

end ForecastOnly

end CycledWorkflow
