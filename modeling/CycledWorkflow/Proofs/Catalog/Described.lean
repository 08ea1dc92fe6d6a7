import CycledWorkflow.Proofs.Catalog.Entries
import CycledWorkflow.Proofs.Outcome
/-!
# What a catalog build returns

Building a catalog describes the planned tasks group by group and keeps each description
once it has passed its checks. A successful build therefore returns exactly the descriptions
of the planned tasks: each returned specification is the description of some planned task of
some group, in the context of that group, and each planned task has its description among
those returned.

Main statements: `mem_build` (a returned specification describes a planned task on a running
cadence) and `exists_mem_build` (every planned task is described among the returned ones).
-/

namespace CycledWorkflow

/-! ### Which tasks a plan holds -/

namespace TaskPlan

@[simp] theorem contains_empty (g : CycleGroup) (k : TaskKind) :
    ({} : TaskPlan).contains g k = false := rfl

@[simp] theorem contains_withGroup_iff (p : TaskPlan) (g' g : CycleGroup) (ts : List TaskKind)
    (k : TaskKind) :
    (p.withGroup g' ts).contains g k = true ↔ p.contains g k = true ∨ (g' = g ∧ k ∈ ts) := by
  simp [withGroup, contains]

/-- Dropping groups keeps the tasks of the groups kept. -/
@[simp] theorem contains_retainGroups (p : TaskPlan) (keep : CycleGroup → Bool) (g : CycleGroup)
    (k : TaskKind) :
    (p.retainGroups keep).contains g k = true ↔ keep g = true ∧ p.contains g k = true := by
  simp only [retainGroups, contains, List.any_filter, List.any_eq_true, Bool.and_eq_true,
    beq_iff_eq]
  constructor
  · rintro ⟨⟨g', ts⟩, hm, hk, rfl, ht⟩
    exact ⟨hk, ⟨(g', ts), hm, rfl, ht⟩⟩
  · rintro ⟨hk, ⟨⟨g', ts⟩, hm, rfl, ht⟩⟩
    exact ⟨(g', ts), hm, hk, rfl, ht⟩

end TaskPlan

namespace Catalog

/-- The context a group of the plan is described in. -/
def context (c : Catalog) (g : CycleGroup) : Context := ⟨c.calendar, c.features, c.plan, g⟩

@[simp] theorem context_calendar (c : Catalog) (g : CycleGroup) :
    (c.context g).calendar = c.calendar := rfl
@[simp] theorem context_features (c : Catalog) (g : CycleGroup) :
    (c.context g).features = c.features := rfl
@[simp] theorem context_plan (c : Catalog) (g : CycleGroup) : (c.context g).plan = c.plan := rfl
@[simp] theorem context_group (c : Catalog) (g : CycleGroup) : (c.context g).group = g := rfl

/-- A checked description is the description itself, on a running cadence. -/
theorem checkSpec_ok {cal : Calendar} {s s' : TaskSpec} (h : checkSpec cal s = .ok s') :
    s' = s ∧ cal.isValid s.cadence = true := by
  unfold checkSpec at h
  cases hv : cal.isValid s.cadence
  · simp [hv, bind, Except.bind, throw, throwThe, MonadExceptOf.throw] at h
  · cases hf : s.fanOut with
    | none =>
      simp only [hv, hf, Bool.not_true, Bool.false_eq_true, ↓reduceIte, pure, Except.pure,
        Except.ok.injEq] at h
      exact ⟨h.symm, rfl⟩
    | some f =>
      cases hc : f.check s.name with
      | error e => simp [hv, hf, hc, bind, Except.bind] at h
      | ok u =>
        simp only [hv, hf, hc, Bool.not_true, Bool.false_eq_true, ↓reduceIte, bind, Except.bind,
          pure, Except.pure, Except.ok.injEq] at h
        exact ⟨h.symm, rfl⟩

/-- Describing and checking one task of a group. -/
def describeChecked (c : Catalog) (g : CycleGroup) (t : TaskKind) : Outcome TaskSpec := do
  checkSpec c.calendar (← c.mode.describe (c.context g) t)

theorem describeChecked_ok {c : Catalog} {g : CycleGroup} {t : TaskKind} {s : TaskSpec}
    (h : c.describeChecked g t = .ok s) :
    c.mode.describe (c.context g) t = .ok s ∧ c.calendar.isValid s.cadence = true := by
  unfold describeChecked at h
  cases hd : c.mode.describe (c.context g) t with
  | error e => simp [hd, bind, Except.bind] at h
  | ok s₀ =>
    simp only [hd, bind, Except.bind] at h
    obtain ⟨rfl, hv⟩ := checkSpec_ok h
    exact ⟨rfl, hv⟩

/-- The build as the flattening of the checked descriptions of each group. -/
theorem build_eq (c : Catalog) :
    c.build = (do
      let groups ← c.plan.groups.mapM fun (g, tasks) => tasks.mapM (c.describeChecked g)
      return groups.flatten) := rfl

/-- A returned specification describes a planned task of some group, on a running cadence. -/
theorem mem_build {c : Catalog} {specs : List TaskSpec} (hb : c.build = .ok specs)
    {s : TaskSpec} (hs : s ∈ specs) :
    ∃ g ts, (g, ts) ∈ c.plan.groups ∧ ∃ t ∈ ts,
      c.mode.describe (c.context g) t = .ok s ∧ c.calendar.isValid s.cadence = true := by
  rw [build_eq] at hb
  cases hg : c.plan.groups.mapM (fun (g, tasks) => tasks.mapM (c.describeChecked g)) with
  | error e => simp [hg, bind, Except.bind] at hb
  | ok groups =>
    simp only [hg, bind, Except.bind, pure, Except.pure, Except.ok.injEq] at hb
    subst hb
    obtain ⟨ss, hss, hs⟩ := List.mem_flatten.mp hs
    obtain ⟨⟨g, ts⟩, hgts, hmap⟩ := exists_input_of_mapM_ok hg ss hss
    obtain ⟨t, ht, hdesc⟩ := exists_input_of_mapM_ok hmap s hs
    exact ⟨g, ts, hgts, t, ht, describeChecked_ok hdesc⟩

/-- Every planned task is described among the returned specifications. -/
theorem exists_mem_build {c : Catalog} {specs : List TaskSpec} (hb : c.build = .ok specs)
    {g : CycleGroup} {ts : List TaskKind} (hg : (g, ts) ∈ c.plan.groups) {t : TaskKind}
    (ht : t ∈ ts) : ∃ s ∈ specs, c.mode.describe (c.context g) t = .ok s := by
  rw [build_eq] at hb
  cases hgs : c.plan.groups.mapM (fun (g, tasks) => tasks.mapM (c.describeChecked g)) with
  | error e => simp [hgs, bind, Except.bind] at hb
  | ok groups =>
    simp only [hgs, bind, Except.bind, pure, Except.pure, Except.ok.injEq] at hb
    subst hb
    obtain ⟨ss, hss, hmap⟩ := exists_output_of_mapM_ok hgs (g, ts) hg
    obtain ⟨s, hs, hdesc⟩ := exists_output_of_mapM_ok hmap t ht
    exact ⟨s, List.mem_flatten.mpr ⟨ss, hss, hs⟩, (describeChecked_ok hdesc).1⟩

/-- A task a group of the plan contains is described among the returned specifications. -/
theorem exists_mem_build_of_contains {c : Catalog} {specs : List TaskSpec}
    (hb : c.build = .ok specs) {g : CycleGroup} {t : TaskKind} (h : c.plan.contains g t = true) :
    ∃ s ∈ specs, c.mode.describe (c.context g) t = .ok s := by
  obtain ⟨⟨g', ts⟩, hgts, hg⟩ := List.any_eq_true.mp h
  simp only [Bool.and_eq_true, beq_iff_eq, List.contains_iff_mem] at hg
  obtain ⟨rfl, ht⟩ := hg
  exact exists_mem_build hb hgts ht

/-- The task a specification describes is one its group of the plan contains. -/
theorem contains_of_mem_groups {p : TaskPlan} {g : CycleGroup} {ts : List TaskKind} {t : TaskKind}
    (hg : (g, ts) ∈ p.groups) (ht : t ∈ ts) : p.contains g t = true :=
  List.any_eq_true.mpr ⟨(g, ts), hg, by simp [ht]⟩

end Catalog

end CycledWorkflow
