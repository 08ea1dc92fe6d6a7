import CycledWorkflow.Proofs.Catalog.Targets
import CycledWorkflow.Catalog.Mode.Replay
/-!
# What the descriptions of a replay experiment refer to

A replay experiment plans a fetch-and-forecast list for the data-assimilation group and a
forecast with its products for the long-forecast group. The rules of both groups lean on the
fetch of initial conditions in the data-assimilation group, which always runs there; the
statistics tasks name each other in a chain, and the surface forecast and verification name
the task before them. `Replay.Closed` collects what the lists plan along with each task, and
`describe_resolves` shows that every reference of a description resolves.

Main statements: `tasksOf_closed`, `describe_names` and `describe_resolves`.
-/

namespace CycledWorkflow

namespace Replay

/-- The tasks a replay experiment plans for a group. -/
def tasksOf (f : Features) : CycleGroup → List TaskKind
  | .gdas => gdasTasks f
  | .gfs => gfsTasks f

@[simp] theorem contains_plan (f : Features) (keep : CycleGroup → Bool) (g : CycleGroup)
    (k : TaskKind) :
    ((plan f).retainGroups keep).contains g k = true ↔ keep g = true ∧ k ∈ tasksOf f g := by
  cases g <;> simp [plan, tasksOf]

/-! ### The task lists are closed -/

/-- What a replay task list plans along with its tasks. -/
structure Closed (ts : List TaskKind) : Prop where
  fcst : .fcst ∈ ts
  arch : .arch ∈ ts
  prep_of_gomg : .gomg ∈ ts → .prep ∈ ts
  gomg_of_analdiag : .analdiag ∈ ts → .gomg ∈ ts
  analdiag_of_archomg : .archomg ∈ ts → .analdiag ∈ ts
  sfcanl_of_gldas : .gldas ∈ ts → .sfcanl ∈ ts
  post_of_vrfy : .vrfy ∈ ts → .post ∈ ts
  post_of_metp : .metp ∈ ts → .post ∈ ts

theorem tasksOf_closed (f : Features) (g : CycleGroup) : Closed (tasksOf f g) := by
  constructor <;> cases g <;>
    simp [tasksOf, gdasTasks, gfsTasks, TaskKind.listIf, mem_ite] <;> grind

/-- The data-assimilation group always fetches its initial conditions. -/
theorem getic_mem_gdas (f : Features) : .getic ∈ tasksOf f .gdas := by
  simp [tasksOf, gdasTasks]

/-! ### Descriptions -/

section Describe

variable {c : Context}

/-- Every description names its own entry as its kind requires. -/
theorem describe_names {t : TaskKind} {s : TaskSpec} (h : describe c t = .ok s) : Names c t s := by
  cases t <;> simp only [describe, pure, Except.pure, Except.ok.injEq] at h
  case post => exact Products.post_names h
  case init =>
    subst h
    split <;> exact ⟨rfl, rfl, rfl⟩
  all_goals first
    | subst h; exact ⟨rfl, rfl, rfl⟩
    | cases h

/-- Every description of a replay experiment runs on its group's cadence, except the
initialization, which runs on the first cycle only when the replay starts from increments and
the surface cycling runs. -/
theorem describe_cadence {t : TaskKind} {s : TaskSpec} (h : describe c t = .ok s) :
    s.cadence = if t = .init ∧ c.features.replay = 2 ∧ c.features.rungcycle = true then .first
      else c.group.defaultCadence := by
  cases t <;> simp only [describe, pure, Except.pure, Except.ok.injEq] at h
  case post => simpa using Products.post_cadence h
  case init =>
    subst h
    cases hr : c.features.replay == 2 <;> cases hg : c.features.rungcycle <;>
      simp_all [Context.spec_cadence]
  all_goals first
    | subst h; simp [Context.spec_cadence, Staging.getic, Products.vrfy, Products.metp]
    | cases h

/-- Every reference a description makes resolves in the plan, given that the plan is the replay
plan of the running groups, the data-assimilation group runs, and the group's interval is not
empty. -/
theorem describe_resolves
    (hp : c.plan = (plan c.features).retainGroups fun g => c.calendar.isValid g.defaultCadence)
    (hg : c.calendar.isValid CycleGroup.gdas.defaultCadence = true) (hi : c.interval.seconds ≠ 0)
    {t : TaskKind} (ht : c.plan.contains c.group t = true) {s : TaskSpec}
    (h : describe c t = .ok s) : AllResolve c.plan t s.leaves := by
  rw [hp, contains_plan] at ht
  obtain ⟨hkeep, ht⟩ := ht
  have hmem : ∀ k ∈ tasksOf c.features c.group, c.plan.contains c.group k = true := fun k hk => by
    rw [hp, contains_plan]
    exact ⟨hkeep, hk⟩
  have hgetic : c.plan.contains .gdas .getic = true := by
    rw [hp, contains_plan]
    exact ⟨hg, getic_mem_gdas c.features⟩
  have hcl := tasksOf_closed c.features c.group
  cases t <;> simp only [describe, pure, Except.pure, Except.ok.injEq] at h
  case getic =>
    have hfcst : c.plan.contains .gdas .fcst = true := by
      rw [hp, contains_plan]
      exact ⟨hg, (tasksOf_closed c.features .gdas).fcst⟩
    exact h ▸ Staging.getic_resolves hfcst
  case init =>
    subst h
    split <;> simp +decide [TaskSpec.leaves, hgetic]
  case prep => simp +decide [← h, TaskSpec.leaves, hgetic]
  case echgres => simp +decide [← h, TaskSpec.leaves, hgetic, hmem _ hcl.fcst]
  case analinc => simp +decide [← h, TaskSpec.leaves, hgetic, hmem _ hcl.fcst]
  case sfcanl =>
    subst h
    by_cases hprep : c.plan.contains c.group .prep = true <;>
      simp +decide [TaskSpec.leaves, hgetic, hprep]
  case gldas => simp +decide [← h, TaskSpec.leaves, hmem _ (hcl.sfcanl_of_gldas ht)]
  case fcst =>
    subst h
    -- the forecast waits for the first surface task the data-assimilation group runs
    cases hf : [TaskKind.gldas, .sfcanl, .getic].find? (c.hasIn .gdas) with
    | none => simp +decide [TaskSpec.leaves, forecastInputs, hf, apply_ite Dependency.leavesOf,
        apply_ite (AllResolve c.plan .fcst)]
    | some k =>
      have hk : c.plan.contains .gdas k = true := List.find?_some hf
      have hmk : k ∈ [TaskKind.gldas, .sfcanl, .getic] := List.mem_of_find?_eq_some hf
      simp only [List.mem_cons, List.not_mem_nil, or_false] at hmk
      rcases hmk with rfl | rfl | rfl <;>
        simp +decide [TaskSpec.leaves, forecastInputs, hf, hk, apply_ite Dependency.leavesOf,
          apply_ite (AllResolve c.plan .fcst)]
  case gomg => simp +decide [← h, TaskSpec.leaves, hmem _ (hcl.prep_of_gomg ht)]
  case analdiag =>
    simpa +decide [← h, TaskSpec.leaves] using hmem _ (hcl.gomg_of_analdiag ht)
  case archomg =>
    simpa +decide [← h, TaskSpec.leaves] using hmem _ (hcl.analdiag_of_archomg ht)
  case post => exact Products.post_resolves h fun _ => hmem _ hcl.fcst
  case vrfy => exact h ▸ Products.vrfy_resolves (hmem _ (hcl.post_of_vrfy ht))
  case metp =>
    exact h ▸ Products.metp_resolves (hmem _ (hcl.post_of_metp ht)) (hmem _ hcl.arch) hi
  case arch =>
    subst h
    by_cases hpost : c.plan.contains c.group .post = true
    · by_cases hvrfy : c.plan.contains c.group .vrfy = true <;>
        simp +decide [TaskSpec.leaves, Products.archiveGate, hpost, hvrfy]
    · simp +decide [TaskSpec.leaves, hpost, hmem _ hcl.fcst]
  -- the remaining kinds fail to be described
  all_goals cases h

end Describe

end Replay

end CycledWorkflow
