import CycledWorkflow.Proofs.Catalog.Closure
/-!
# The cadences of a catalog's tasks run

Which cadences exist is decided by the calendar, from the experiment's raw base; which cadence
a task lands on is decided by the mode's rules, and whether a task is planned by the switches
read from the derived base. The three agree in every mode:

* a task runs on its group's cadence, which runs because the plan keeps only running groups;
* the statistics tasks of a forecast-only experiment run on the statistics cadence, which is
  laid out when the statistics are on, and deriving the base leaves that switch as it was;
* the initialization of a replay experiment may run on the first cycle alone, which every
  replay calendar lays out.

So the check of a task's cadence never fails on a planned task, every entry of an assembled
graph runs on one of the graph's cadences, and in cycled and replay experiments the
long-forecast group is planned, and appears in the graph, exactly when the secondary cadence
resolves to a running one.

Main statement: `catalog_cadences_run`.
-/

namespace CycledWorkflow

/-- The statistics switch of a base is the one its switches are read with. -/
theorem Features.ofScope_doOmf {base : Config.Scope} {f : Features}
    (h : Features.ofScope base = .ok f) : base.flag "DO_OmF" false = .ok f.doOmf := by
  unfold Features.ofScope at h
  -- every read succeeds; the statistics switch is the value its read returned
  generalize base.flag "DO_OmF" false = r at h ⊢
  simp only [bind, Except.bind] at h
  repeat (split at h; · cases h)
  rw [← Except.ok.inj h]

theorem TaskPlan.exists_of_contains {p : TaskPlan} {g : CycleGroup} {k : TaskKind}
    (h : p.contains g k = true) : ∃ ts, (g, ts) ∈ p.groups ∧ k ∈ ts := by
  obtain ⟨⟨g', ts⟩, hgts, hg⟩ := List.any_eq_true.mp h
  simp only [Bool.and_eq_true, beq_iff_eq, List.contains_iff_mem] at hg
  obtain ⟨rfl, hk⟩ := hg
  exact ⟨ts, hgts, hk⟩

/-- A fan-out check fails only on the fan-out. -/
theorem FanOut.check_ne_config (f : FanOut) (n msg : String) : f.check n ≠ .error (.config msg) := by
  unfold FanOut.check
  split
  · simp [throw, throwThe, MonadExceptOf.throw]
  · split <;> simp [throw, throwThe, MonadExceptOf.throw, pure, Except.pure]

/-- A cadence check of a task on a running cadence can fail only on its fan-out. -/
theorem Catalog.checkSpec_ne_config {cal : Calendar} {s : TaskSpec}
    (hv : cal.isValid s.cadence = true) (msg : String) :
    Catalog.checkSpec cal s ≠ .error (.config msg) := by
  intro h
  unfold Catalog.checkSpec at h
  simp only [hv, Bool.not_true, Bool.false_eq_true, ↓reduceIte] at h
  cases hf : s.fanOut with
  | none => simp [hf, pure, Except.pure] at h
  | some f =>
    simp only [hf] at h
    rcases error_of_bind_error h with h | ⟨u, -, h⟩
    · exact FanOut.check_ne_config f s.name msg h
    · cases h

namespace Catalog

variable {e : Experiment} {cal : Calendar} {cat : Catalog}

theorem features_doOmf (hc : ofCalendar cal = .ok cat) :
    cal.base.flag "DO_OmF" false = .ok cat.features.doOmf := by
  unfold ofCalendar at hc
  obtain ⟨f, hf, hc⟩ := exists_ok_of_bind_ok hc
  obtain rfl := Except.ok.inj hc
  exact Features.ofScope_doOmf hf

/-- A group of the plan runs on a running cadence. -/
theorem isValid_of_contains {g : CycleGroup} {t : TaskKind} (ht : cat.plan.contains g t = true) :
    cat.calendar.isValid g.defaultCadence = true := by
  rw [plan, TaskPlan.contains_retainGroups] at ht
  exact ht.1

/-- Every description of a planned task runs on a running cadence. -/
theorem describe_cadence_valid (hd : Calendar.derive e = .ok cal) (hc : ofCalendar cal = .ok cat)
    {g : CycleGroup} {t : TaskKind} (ht : cat.plan.contains g t = true) {s : TaskSpec}
    (h : cat.mode.describe (cat.context g) t = .ok s) : cal.isValid s.cadence = true := by
  have hcal := ofCalendar_calendar hc
  have hkeep : cal.isValid g.defaultCadence = true := hcal ▸ isValid_of_contains ht
  have hmode : cat.mode = e.mode := by rw [mode, hcal, Calendar.derive_mode hd]
  cases hm : cat.mode <;> rw [hm] at h
  · rw [Cycled.describe_cadence h, context_group]
    exact hkeep
  · -- the statistics tasks are planned only with the statistics on, and then their cadence runs
    rw [ForecastOnly.describe_cadence h, context_group]
    split
    · next hs =>
      rw [plan, hm, Mode.plan, ForecastOnly.contains_plan] at ht
      have homf := ForecastOnly.doOmf_of_mem_tasks ht.2.2 hs
      exact Calendar.derive_gomg_valid hd (hmode ▸ hm) (homf ▸ features_doOmf hc)
    · exact hkeep
  · rw [Replay.describe_cadence h, context_group]
    split
    · exact Calendar.derive_first_valid hd (hmode ▸ hm)
    · exact hkeep
  · rw [Omf.describe_cadence h, context_group]
    exact hkeep
  · rw [EnsRegrid.describe_cadence h, context_group]
    exact hkeep

/-- Every entry of a graph assembled from a build runs on one of the graph's cadences. -/
theorem entry_cadence_mem (hc : ofCalendar cal = .ok cat) {specs : List TaskSpec}
    (hb : cat.build = .ok specs) {generatedAt : String} {G : Graph}
    (hG : Graph.assemble cal specs generatedAt = .ok G) :
    ∀ x ∈ G.entries, ∃ cad ∈ G.cadences, cad.id = x.node.cadence := by
  intro x hx
  obtain ⟨m, hE, -, hcads⟩ := Graph.assemble_ok hG
  obtain ⟨s, hs, r, rfl⟩ := hE.described x hx
  obtain ⟨-, -, -, -, -, -, hv⟩ := mem_build hb hs
  rw [ofCalendar_calendar hc] at hv
  obtain ⟨cad, hcad, hid, hvalid⟩ := Calendar.exists_of_isValid hv
  exact ⟨cad, hcads ▸ List.mem_filter.mpr ⟨hcad, hvalid⟩, by simp [hid]⟩

/-- In cycled and replay experiments the long forecast is planned exactly when its cadence
runs. -/
theorem contains_gfs_fcst (hd : Calendar.derive e = .ok cal) (hc : ofCalendar cal = .ok cat)
    (hm : e.mode = .cycled ∨ e.mode = .replay) :
    cat.plan.contains .gfs .fcst = true ↔ cal.isValid .gfs = true := by
  have hcal := ofCalendar_calendar hc
  have hmode : cat.mode = e.mode := by rw [mode, hcal, Calendar.derive_mode hd]
  rcases hm with hm | hm
  · rw [plan, hmode, hm, Mode.plan, Cycled.contains_plan, hcal]
    simp [CycleGroup.defaultCadence, (Cycled.tasksOf_closed cat.features .gfs).fcst]
  · rw [plan, hmode, hm, Mode.plan, Replay.contains_plan, hcal]
    simp [CycleGroup.defaultCadence, (Replay.tasksOf_closed cat.features .gfs).fcst]

/-- In cycled and replay experiments the long-forecast group is planned exactly when the
secondary cadence resolves to a running one. -/
theorem gfs_planned_iff (hd : Calendar.derive e = .ok cal) (hc : ofCalendar cal = .ok cat)
    (hm : e.mode = .cycled ∨ e.mode = .replay) :
    (∃ ts, (CycleGroup.gfs, ts) ∈ cat.plan.groups) ↔
      ∃ sec, cal.secondary = some sec ∧ sec.cadence.valid = true := by
  rw [← Calendar.derive_gfs_valid_iff hd hm]
  constructor
  · rintro ⟨ts, hts⟩
    simpa [ofCalendar_calendar hc, CycleGroup.defaultCadence] using
      plan_groups_valid cat .gfs ts hts
  · intro hv
    obtain ⟨ts, hts, -⟩ := TaskPlan.exists_of_contains ((contains_gfs_fcst hd hc hm).mpr hv)
    exact ⟨ts, hts⟩

/-- In cycled and replay experiments the graph has a long-forecast group exactly when the
secondary cadence resolves to a running one. -/
theorem gfs_assembled_iff (hd : Calendar.derive e = .ok cal) (hc : ofCalendar cal = .ok cat)
    (hm : e.mode = .cycled ∨ e.mode = .replay) {specs : List TaskSpec}
    (hb : cat.build = .ok specs) {generatedAt : String} {G : Graph}
    (hG : Graph.assemble cal specs generatedAt = .ok G) :
    (∃ grp ∈ G.groups, grp.group = .gfs) ↔
      ∃ sec, cal.secondary = some sec ∧ sec.cadence.valid = true := by
  obtain ⟨m, -, hgroups, -⟩ := Graph.assemble_ok hG
  rw [hgroups, ← gfs_planned_iff hd hc hm]
  constructor
  · -- a description of the group comes from a planned task of the group
    rintro ⟨s, hs, hgfs⟩
    obtain ⟨g, ts, hg, t, -, hdesc, -⟩ := mem_build hb hs
    have hgroup := (describe_names hdesc).group
    rw [hgfs, context_group] at hgroup
    exact ⟨ts, hgroup ▸ hg⟩
  · -- the long forecast is then planned and described
    rintro ⟨ts, hts⟩
    have hv := (gfs_planned_iff hd hc hm).mp ⟨ts, hts⟩
    rw [← Calendar.derive_gfs_valid_iff hd hm, ← contains_gfs_fcst hd hc hm] at hv
    obtain ⟨s, hs, hdesc⟩ := exists_mem_build_of_contains hb hv
    exact ⟨s, hs, (describe_names hdesc).group⟩

/-- **The cadences of a catalog's tasks run.** For every experiment whose calendar derives and
whose switches read: every description of a planned task runs on a running cadence, so the
build's cadence check never fails; every entry of a graph assembled from the build runs on one
of the graph's cadences; and in cycled and replay experiments the long-forecast group is in the
plan, and in the graph, exactly when the secondary cadence resolves to a running one. -/
theorem catalog_cadences_run (hd : Calendar.derive e = .ok cal) (hc : ofCalendar cal = .ok cat) :
    (∀ g t s, cat.plan.contains g t = true → cat.mode.describe (cat.context g) t = .ok s →
      cal.isValid s.cadence = true ∧ ∀ msg, checkSpec cal s ≠ .error (.config msg)) ∧
    (∀ specs generatedAt G, cat.build = .ok specs →
      Graph.assemble cal specs generatedAt = .ok G →
      ∀ x ∈ G.entries, ∃ cad ∈ G.cadences, cad.id = x.node.cadence) ∧
    (e.mode = .cycled ∨ e.mode = .replay →
      ((∃ ts, (CycleGroup.gfs, ts) ∈ cat.plan.groups) ↔
        ∃ sec, cal.secondary = some sec ∧ sec.cadence.valid = true) ∧
      ∀ specs generatedAt G, cat.build = .ok specs →
        Graph.assemble cal specs generatedAt = .ok G →
        ((∃ grp ∈ G.groups, grp.group = .gfs) ↔
          ∃ sec, cal.secondary = some sec ∧ sec.cadence.valid = true)) := by
  refine ⟨fun g t s ht h => ?_, fun specs generatedAt G hb hG => entry_cadence_mem hc hb hG,
    fun hm => ⟨gfs_planned_iff hd hc hm, fun specs generatedAt G hb hG =>
      gfs_assembled_iff hd hc hm hb hG⟩⟩
  have hv := describe_cadence_valid hd hc ht h
  exact ⟨hv, checkSpec_ne_config hv⟩

/-- A cycled experiment over one day with the long forecast four times a day. -/
def cycledSample : Experiment where
  mode := .cycled
  base := { entries := [("PSLOT", .text "x"), ("SCHEDULER", .text "slurm"), ("gfs_cyc", .int 4)] }
  sections := []
  sdate := ⟨1639958400⟩
  edate := ⟨1640044800⟩

theorem cycledSample_cadences_run : ∃ cal cat, Calendar.derive cycledSample = .ok cal ∧
    ofCalendar cal = .ok cat ∧
    (∀ g t s, cat.plan.contains g t = true → cat.mode.describe (cat.context g) t = .ok s →
      cal.isValid s.cadence = true ∧ ∀ msg, checkSpec cal s ≠ .error (.config msg)) ∧
    (∀ specs generatedAt G, cat.build = .ok specs →
      Graph.assemble cal specs generatedAt = .ok G →
      ∀ x ∈ G.entries, ∃ cad ∈ G.cadences, cad.id = x.node.cadence) ∧
    (cycledSample.mode = .cycled ∨ cycledSample.mode = .replay →
      ((∃ ts, (CycleGroup.gfs, ts) ∈ cat.plan.groups) ↔
        ∃ sec, cal.secondary = some sec ∧ sec.cadence.valid = true) ∧
      ∀ specs generatedAt G, cat.build = .ok specs →
        Graph.assemble cal specs generatedAt = .ok G →
        ((∃ grp ∈ G.groups, grp.group = .gfs) ↔
          ∃ sec, cal.secondary = some sec ∧ sec.cadence.valid = true)) :=
  ⟨_, _, rfl, rfl, @catalog_cadences_run cycledSample _ _ rfl rfl⟩

end Catalog

end CycledWorkflow
