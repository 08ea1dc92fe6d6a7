import CycledWorkflow.Proofs.Catalog.Mode.Cycled
import CycledWorkflow.Proofs.Catalog.Mode.Replay
import CycledWorkflow.Proofs.Catalog.Mode.ForecastOnly
import CycledWorkflow.Proofs.Catalog.Mode.SingleGroup
import CycledWorkflow.Proofs.Calendar.Layout
import CycledWorkflow.Proofs.Graph.Assembly
/-!
# The references of a catalog are closed

Whatever the mode and the switches, every task or metatask a returned description waits for is
itself among the returned descriptions, in the form it is referred to by: a task condition
names a description without a fan-out by its full name, a metatask condition names the
metatask of a description with one. References into a group whose cadence does not run
cannot occur, because every rule names only tasks the plan holds, and the plan holds only the
running groups.

On the graph side, the reference check of the assembled graph then passes, so assembling the
catalog's own output never reports an unknown reference.

Main statement: `catalog_references_closed`.
-/

namespace CycledWorkflow

/-- The interval of a group is never empty when every cadence steps forward. -/
theorem Context.interval_ne_zero {c : Context}
    (h : ∀ cad ∈ c.calendar.cadences, 0 < cad.interval.seconds) : c.interval.seconds ≠ 0 := by
  unfold Context.interval Calendar.interval? Calendar.cadence?
  cases hf : c.calendar.cadences.find? (·.id == c.group.defaultCadence) with
  | none => decide
  | some cad =>
    have := h cad (List.mem_of_find?_eq_some hf)
    simp only [Option.map_some, Option.getD_some]
    omega

namespace Catalog

theorem ofCalendar_calendar {cal : Calendar} {cat : Catalog} (h : ofCalendar cal = .ok cat) :
    cat.calendar = cal := by
  unfold ofCalendar at h
  obtain ⟨f, -, h⟩ := exists_ok_of_bind_ok h
  rw [← Except.ok.inj h]

section Describe

variable {e : Experiment} {cal : Calendar} {cat : Catalog}

/-- Every description names its own entry as its kind requires, in every mode. -/
theorem describe_names {g : CycleGroup} {t : TaskKind} {s : TaskSpec}
    (h : cat.mode.describe (cat.context g) t = .ok s) : Names (cat.context g) t s := by
  cases hm : cat.mode <;> rw [hm] at h
  · exact Cycled.describe_names h
  · exact ForecastOnly.describe_names h
  · exact Replay.describe_names h
  · exact Omf.describe_names h
  · exact EnsRegrid.describe_names h

/-- Every reference of the description of a planned task resolves in the catalog's plan, in
every mode. -/
theorem describe_resolves (hd : Calendar.derive e = .ok cal) (hc : ofCalendar cal = .ok cat)
    {g : CycleGroup} {t : TaskKind} (ht : cat.plan.contains g t = true) {s : TaskSpec}
    (h : cat.mode.describe (cat.context g) t = .ok s) : AllResolve cat.plan t s.leaves := by
  have hcal := ofCalendar_calendar hc
  have hi : (cat.context g).interval.seconds ≠ 0 :=
    Context.interval_ne_zero (by simpa [hcal] using Calendar.derive_interval_pos hd)
  have hmode : cat.mode = e.mode := by rw [mode, hcal, Calendar.derive_mode hd]
  cases hm : cat.mode <;> rw [hm] at h
  · have hg : cat.calendar.isValid CycleGroup.gdas.defaultCadence = true := by
      rw [hcal]
      exact Calendar.derive_gdas_valid hd (Or.inl (hmode ▸ hm))
    exact Cycled.describe_resolves (by simp [plan, hm, Mode.plan]) hg hi ht h
  · have hp : (cat.context g).plan =
        (ForecastOnly.plan (cat.context g).features cat.calendar.primaryGroup).retainGroups
          fun g => (cat.context g).calendar.isValid g.defaultCadence := by
      simp [plan, hm, Mode.plan]
    exact ForecastOnly.describe_resolves hp hi ht h
  · have hg : cat.calendar.isValid CycleGroup.gdas.defaultCadence = true := by
      rw [hcal]
      exact Calendar.derive_gdas_valid hd (Or.inr (hmode ▸ hm))
    exact Replay.describe_resolves (by simp [plan, hm, Mode.plan]) hg hi ht h
  · exact Omf.describe_resolves (by simp [plan, hm, Mode.plan]) ht h
  · exact EnsRegrid.describe_resolves (by simp [plan, hm, Mode.plan]) ht h

end Describe

/-! ### Closure of the returned descriptions -/

section Build

variable {e : Experiment} {cal : Calendar} {cat : Catalog} {specs : List TaskSpec}

/-- A condition of a returned description names a returned description of the right shape. -/
theorem build_leaf_resolves (hd : Calendar.derive e = .ok cal) (hc : ofCalendar cal = .ok cat)
    (hb : cat.build = .ok specs) {s : TaskSpec} (hs : s ∈ specs) {p : Predicate}
    (hp : p ∈ s.leaves) :
    (∀ r o, p = .task r o → ∃ s' ∈ specs, s'.fanOut = none ∧ s'.name = r) ∧
    (∀ r o, p = .metatask r o → ∃ s' ∈ specs, ∃ f, s'.fanOut = some f ∧ f.metatask = r) := by
  obtain ⟨g, ts, hg, t, ht, hdesc, -⟩ := mem_build hb hs
  have hres := describe_resolves hd hc (contains_of_mem_groups hg ht) hdesc p hp
  constructor
  · rintro r o rfl
    obtain ⟨g', k, rfl, hf, hk, -⟩ := hres
    obtain ⟨s', hs', hd'⟩ := exists_mem_build_of_contains hb hk
    have hn := describe_names hd'
    refine ⟨s', hs', hn.fanOut_eq_none.mpr hf, ?_⟩
    rw [TaskSpec.name, hn.group, hn.task]
    rfl
  · rintro r o rfl
    obtain ⟨g', k, rfl, hf, hk, -⟩ := hres
    obtain ⟨s', hs', hd'⟩ := exists_mem_build_of_contains hb hk
    have hfan := (describe_names hd').fanOut
    rw [hf, if_pos rfl] at hfan
    obtain ⟨f, hf', hfm⟩ := Option.map_eq_some_iff.mp hfan
    exact ⟨s', hs', f, hf', hfm⟩

/-- Entries made of descriptions that close over their references pass the reference
check. -/
theorem referencesKnown_of_entries {G : Graph} {m : Nat} (hE : Graph.EntriesOf G specs m)
    (hcl : ∀ s ∈ specs, ∀ p ∈ s.leaves,
      (∀ r o, p = .task r o → ∃ s' ∈ specs, s'.fanOut = none ∧ s'.name = r) ∧
      (∀ r o, p = .metatask r o → ∃ s' ∈ specs, ∃ f, s'.fanOut = some f ∧ f.metatask = r)) :
    Graph.ReferencesKnown G.entries := by
  intro x hx leaf hleaf
  obtain ⟨s, hs, r, rfl⟩ := hE.described x hx
  rw [Graph.dependency_entryOf] at hleaf
  constructor
  · intro n o hn
    obtain ⟨s', hs', hnone, rfl⟩ := (hcl s hs leaf hleaf).1 n o hn
    obtain ⟨r', hr'⟩ := hE.complete s' hs'
    refine ⟨_, hr', by simp [hnone], ?_⟩
    simp [TaskSpec.entryName, hnone]
  · intro n o hn
    obtain ⟨s', hs', f, hf, rfl⟩ := (hcl s hs leaf hleaf).2 n o hn
    obtain ⟨r', hr'⟩ := hE.complete s' hs'
    refine ⟨_, hr', by simp [hf], ?_⟩
    simp [TaskSpec.entryName, hf]

/-- The references of a catalog are closed: every task condition of a returned description
names a returned description without a fan-out by its full name, and every metatask condition
the metatask of a returned description with one. Assembling the returned descriptions into a
graph therefore never reports an unknown reference. -/
theorem catalog_references_closed (hd : Calendar.derive e = .ok cal)
    (hc : ofCalendar cal = .ok cat) (hb : cat.build = .ok specs) :
    (∀ s ∈ specs, ∀ p ∈ s.leaves,
      (∀ r o, p = .task r o → ∃ s' ∈ specs, s'.fanOut = none ∧ s'.name = r) ∧
      (∀ r o, p = .metatask r o → ∃ s' ∈ specs, ∃ f, s'.fanOut = some f ∧ f.metatask = r)) ∧
    ∀ generatedAt task r,
      Graph.assemble cal specs generatedAt ≠ .error (.unknownReference task r) := by
  have hcl := fun (s : TaskSpec) (hs : s ∈ specs) (p : Predicate) (hp : p ∈ s.leaves) =>
    build_leaf_resolves hd hc hb hs hp
  refine ⟨hcl, fun generatedAt task r h => ?_⟩
  obtain ⟨G, m, hE, hG⟩ := Graph.assemble_check_error h rfl
  have hok := Graph.checkReferences_eq_ok (referencesKnown_of_entries hE hcl)
  -- the reference check passes, and the order check reports loops only
  rcases hG with hG | ⟨-, hG⟩
  · rw [hok] at hG
    cases hG
  · obtain ⟨msg, hmsg⟩ := Graph.checkOrder_error hG
    cases hmsg

end Build

/-- A small observation-minus-forecast experiment over one day. -/
def omfSample : Experiment where
  mode := .omf
  base := { entries := [("PSLOT", .text "x"), ("SCHEDULER", .text "slurm")] }
  sections := []
  sdate := ⟨1639958400⟩
  edate := ⟨1640044800⟩

theorem omfSample_references_closed : ∃ cal cat specs, Calendar.derive omfSample = .ok cal ∧
    ofCalendar cal = .ok cat ∧ cat.build = .ok specs ∧
    ∀ generatedAt task r,
      Graph.assemble cal specs generatedAt ≠ .error (.unknownReference task r) :=
  ⟨_, _, _, rfl, rfl, rfl, (@catalog_references_closed omfSample _ _ _ rfl rfl rfl).2⟩

end Catalog

end CycledWorkflow
