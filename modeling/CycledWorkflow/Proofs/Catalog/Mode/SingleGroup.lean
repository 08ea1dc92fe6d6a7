import CycledWorkflow.Proofs.Catalog.Targets
import CycledWorkflow.Catalog.Mode.Omf
import CycledWorkflow.Catalog.Mode.EnsRegrid
/-!
# What the descriptions of the single-group modes refer to

Observation-minus-forecast and ensemble regridding experiments plan one short chain of tasks
in the data-assimilation group, each task waiting for the one before it (the fetch of
forecast files only when it runs). Every reference of a description therefore resolves, and
every description names its entry as its kind requires.

Main statements: `Omf.describe_resolves` and `EnsRegrid.describe_resolves`.
-/

namespace CycledWorkflow

namespace Omf

/-- Only the data-assimilation group is planned, with the experiment's tasks, when it is
kept. -/
@[simp] theorem contains_plan (f : Features) (keep : CycleGroup → Bool) (g : CycleGroup)
    (k : TaskKind) :
    ((plan f).retainGroups keep).contains g k = true ↔
      keep g = true ∧ CycleGroup.gdas = g ∧ k ∈ tasks f := by
  simp [plan]

section Describe

variable {c : Context}

/-- Every description names its own entry as its kind requires. -/
theorem describe_names {t : TaskKind} {s : TaskSpec} (h : describe c t = .ok s) : Names c t s := by
  cases t <;> simp only [describe, pure, Except.pure, Except.ok.injEq] at h
  all_goals first
    | subst h; exact ⟨rfl, rfl, rfl⟩
    | cases h

/-- Every description of an observation-minus-forecast experiment runs on its group's
cadence. -/
theorem describe_cadence {t : TaskKind} {s : TaskSpec} (h : describe c t = .ok s) :
    s.cadence = c.group.defaultCadence := by
  cases t <;> simp only [describe, pure, Except.pure, Except.ok.injEq] at h
  all_goals first
    | subst h; rfl
    | cases h

/-- Every reference a description makes resolves in the plan of the running group. -/
theorem describe_resolves
    (hp : c.plan = (plan c.features).retainGroups fun g => c.calendar.isValid g.defaultCadence)
    {t : TaskKind} (ht : c.plan.contains c.group t = true) {s : TaskSpec}
    (h : describe c t = .ok s) : AllResolve c.plan t s.leaves := by
  rw [hp, contains_plan] at ht
  obtain ⟨hkeep, hgdas, ht⟩ := ht
  have hmem : ∀ k ∈ tasks c.features, c.plan.contains c.group k = true := fun k hk => by
    rw [hp, contains_plan]
    exact ⟨hkeep, hgdas, hk⟩
  cases t <;> simp only [describe, pure, Except.pure, Except.ok.injEq] at h
  case getfcst => simp [← h, TaskSpec.leaves, backgroundFiles]
  case prep =>
    subst h
    by_cases hget : c.plan.contains c.group .getfcst = true <;>
      simp +decide [TaskSpec.leaves, backgroundFiles, hget]
  case gomg => simpa +decide [← h, TaskSpec.leaves] using hmem .prep (by simp [tasks])
  case analdiag => simpa +decide [← h, TaskSpec.leaves] using hmem .gomg (by simp [tasks])
  case archomg => simpa +decide [← h, TaskSpec.leaves] using hmem .analdiag (by simp [tasks])
  -- the remaining kinds fail to be described
  all_goals cases h

end Describe

end Omf

namespace EnsRegrid

/-- Only the data-assimilation group is planned, with the four tasks, when it is kept. -/
@[simp] theorem contains_plan (keep : CycleGroup → Bool) (g : CycleGroup) (k : TaskKind) :
    (plan.retainGroups keep).contains g k = true ↔
      keep g = true ∧ CycleGroup.gdas = g ∧ k ∈ tasks := by
  simp [plan]

section Describe

variable {c : Context}

/-- Adding the previous cycle's variables keeps the rest of a description. -/
theorem describe_eq_ok {t : TaskKind} {s : TaskSpec} (h : describe c t = .ok s) :
    ∃ s₀, describeOwn c t = .ok s₀ ∧
      s = { s₀ with env := s₀.env ++ previousCycleBindings Span.sixHours } := by
  obtain ⟨s₀, h₀, h⟩ := exists_ok_of_bind_ok h
  exact ⟨s₀, h₀, (Except.ok.inj h).symm⟩

theorem describeOwn_names {t : TaskKind} {s : TaskSpec} (h : describeOwn c t = .ok s) :
    Names c t s := by
  cases t <;> simp only [describeOwn, pure, Except.pure, Except.ok.injEq] at h
  case eget => exact Staging.eget_names h
  case enspost =>
    obtain ⟨fan, hfan, h⟩ := exists_ok_of_bind_ok h
    obtain rfl := Except.ok.inj h
    exact ⟨rfl, rfl, by simp [TaskKind.fanned, Staging.memberFanOut_metatask hfan]⟩
  all_goals first
    | subst h; exact ⟨rfl, rfl, rfl⟩
    | cases h

theorem describeOwn_cadence {t : TaskKind} {s : TaskSpec} (h : describeOwn c t = .ok s) :
    s.cadence = c.group.defaultCadence := by
  cases t <;> simp only [describeOwn, pure, Except.pure, Except.ok.injEq] at h
  case eget => exact Staging.eget_cadence h
  case enspost =>
    obtain ⟨fan, -, h⟩ := exists_ok_of_bind_ok h
    obtain rfl := Except.ok.inj h
    rfl
  all_goals first
    | subst h; rfl
    | cases h

/-- Every description of an ensemble regridding experiment runs on its group's cadence. -/
theorem describe_cadence {t : TaskKind} {s : TaskSpec} (h : describe c t = .ok s) :
    s.cadence = c.group.defaultCadence := by
  obtain ⟨s₀, h₀, rfl⟩ := describe_eq_ok h
  show s₀.cadence = _
  exact describeOwn_cadence h₀

/-- Every description names its own entry as its kind requires. -/
theorem describe_names {t : TaskKind} {s : TaskSpec} (h : describe c t = .ok s) : Names c t s := by
  obtain ⟨s₀, h₀, rfl⟩ := describe_eq_ok h
  have hn := describeOwn_names h₀
  exact ⟨hn.group, hn.task, hn.fanOut⟩

/-- Every reference a description makes resolves in the plan of the running group. -/
theorem describe_resolves
    (hp : c.plan = plan.retainGroups fun g => c.calendar.isValid g.defaultCadence)
    {t : TaskKind} (ht : c.plan.contains c.group t = true) {s : TaskSpec}
    (h : describe c t = .ok s) : AllResolve c.plan t s.leaves := by
  rw [hp, contains_plan] at ht
  obtain ⟨hkeep, hgdas, -⟩ := ht
  have hmem : ∀ k ∈ tasks, c.plan.contains c.group k = true := fun k hk => by
    rw [hp, contains_plan]
    exact ⟨hkeep, hgdas, hk⟩
  obtain ⟨s₀, h₀, rfl⟩ := describe_eq_ok h
  show AllResolve c.plan t s₀.leaves
  cases t <;> simp only [describeOwn, pure, Except.pure, Except.ok.injEq] at h₀
  case eget => exact Staging.eget_resolves h₀
  case enspost =>
    obtain ⟨fan, -, h₀⟩ := exists_ok_of_bind_ok h₀
    obtain rfl := Except.ok.inj h₀
    simpa +decide [TaskSpec.leaves] using hmem .eget (by simp [tasks])
  case ergpos => simpa +decide [← h₀, TaskSpec.leaves] using hmem .enspost (by simp [tasks])
  case archerg => simpa +decide [← h₀, TaskSpec.leaves] using hmem .ergpos (by simp [tasks])
  -- the remaining kinds fail to be described
  all_goals cases h₀

end Describe

end EnsRegrid

end CycledWorkflow
