import CycledWorkflow.Calendar.Derive
import CycledWorkflow.Proofs.Outcome
/-!
# The cadences a calendar lays out

Deriving a calendar lays out each mode's cadences. Cycled and replay experiments run the main
cadence of the data-assimilation group every six hours over the window (replay adds the first
cycle alone), and the long-forecast cadence only when it resolves to a running one; the other
modes run one main cadence at their interval, and forecast-only experiments the statistics
cadence six hours behind it when the statistics are on.

Every laid-out cadence steps forward by a positive interval (`derive_interval_pos`), and in
cycled and replay experiments the data-assimilation cadence runs (`derive_gdas_valid`).

Main statements: `layout_cycled`, `layout_forecastOnly`, `layout_single` (the cadences of each
mode) and their consequences for a derived calendar.
-/

namespace CycledWorkflow

namespace Config.Scope

/-- Writing other keys leaves a key's value. -/
theorem get?_extend_of_not_mem (s : Scope) {es : List (String × Value)} {key : String}
    (h : key ∉ es.map Prod.fst) : (s.extend es).get? key = s.get? key := by
  induction es generalizing s with
  | nil => rfl
  | cons e es ih =>
    simp only [List.map_cons, List.mem_cons, not_or] at h
    show ((s.insert e.1 e.2).extend es).get? key = _
    rw [ih _ h.2, get?_insert_of_ne _ _ _ _ h.1]

/-- A flag reads its key only. -/
theorem flag_congr {s s' : Scope} {key : String} (h : s.get? key = s'.get? key) (d : Bool) :
    s.flag key d = s'.flag key d := by
  unfold flag
  rw [h]

end Config.Scope

/-! ### Positive intervals -/

theorem Frequency.interval_pos {f : Frequency} {d : Span} (h : f.interval = some d) :
    0 < d.seconds := by
  cases f <;> simp [Frequency.interval] at h <;> subst h <;> decide

theorem Span.ofDays?_pos {n : Int} {d : Span} (hn : 0 < n) (h : Span.ofDays? n = some d) :
    0 < d.seconds := by
  unfold Span.ofDays? Span.ofSeconds? at h
  split at h
  · obtain rfl := Option.some.inj h
    show 0 < n * 86400
    omega
  · cases h

namespace Calendar

theorem intervalDays_pos {base : Config.Scope} {d : Span} (h : intervalDays base = .ok (some d)) :
    0 < d.seconds := by
  unfold intervalDays at h
  obtain ⟨days, -, h⟩ := exists_ok_of_bind_ok h
  split at h
  · next n =>
    split at h
    · next hn =>
      split at h
      · next d' hd =>
        obtain rfl := Option.some.inj (Except.ok.inj h)
        exact Span.ofDays?_pos hn hd
      · cases h
    · cases h
  · cases h

/-- A running secondary cadence steps by the interval of its frequency. -/
theorem resolveSecondary_interval_pos {start finish : Moment} {a : Alignment} {delay : Span}
    {freq : Frequency} (h : (resolveSecondary start finish a delay freq).cadence.valid = true) :
    0 < (resolveSecondary start finish a delay freq).cadence.interval.seconds := by
  unfold resolveSecondary at h ⊢
  cases hf : freq.interval with
  | none => simp [hf, Cadence.disabled] at h
  | some i =>
    have hi := Frequency.interval_pos hf
    simp only [hf] at h ⊢
    -- only the branch with a first cycle inside the window runs
    split at h <;> (try split at h) <;> simp_all [Cadence.active, Cadence.disabled]

/-- The resolved secondary cadence is the long-forecast cadence. -/
theorem resolveSecondary_id (start finish : Moment) (a : Alignment) (delay : Span)
    (freq : Frequency) : (resolveSecondary start finish a delay freq).cadence.id = .gfs := by
  unfold resolveSecondary
  split
  · rfl
  · dsimp only
    split
    · split <;> rfl
    · rfl

/-- Whether an id runs is read off the first cadence laid out with it. -/
theorem isValid_iff {c : Calendar} {id : CadenceId} :
    c.isValid id = true ↔ ∃ cad, c.cadences.find? (·.id == id) = some cad ∧ cad.valid = true := by
  unfold isValid cadence?
  cases c.cadences.find? (·.id == id) <;> simp

/-- A running id is the id of a running cadence. -/
theorem exists_of_isValid {c : Calendar} {id : CadenceId} (h : c.isValid id = true) :
    ∃ cad ∈ c.cadences, cad.id = id ∧ cad.valid = true := by
  obtain ⟨cad, hf, hv⟩ := isValid_iff.mp h
  exact ⟨cad, List.mem_of_find?_eq_some hf, by simpa using List.find?_some hf, hv⟩

/-! ### The cadences of each mode -/

/-- A cycled or replay layout: the six-hourly main cadence (replay also the first cycle alone),
the secondary cadence resolved after a non-negative delay, run when it is valid, and the keys
derived from it. -/
theorem layout_cycled_spec {e : Experiment} {cads : List Cadence} {sec : Option Secondary}
    {extra : List (String × Config.Value)} {g : CycleGroup}
    (hm : e.mode = .cycled ∨ e.mode = .replay) (h : layout e = .ok (cads, sec, extra, g)) :
    ∃ delay freq, 0 ≤ delay.seconds ∧
      sec = some (resolveSecondary e.sdate e.edate .synoptic delay freq) ∧ g = .gdas ∧
      secondaryEntries e.base (resolveSecondary e.sdate e.edate .synoptic delay freq) =
        .ok extra ∧
      cads =
        (if e.mode = .replay then [Cadence.active .first e.sdate e.sdate Span.sixHours] else []) ++
        [Cadence.active .gdas e.sdate e.edate Span.sixHours] ++
        (if (resolveSecondary e.sdate e.edate .synoptic delay freq).cadence.valid then
          [(resolveSecondary e.sdate e.edate .synoptic delay freq).cadence] else []) := by
  unfold layout at h
  rcases hm with hm | hm <;> simp only [hm] at h ⊢
  all_goals
    obtain ⟨n, -, h⟩ := exists_ok_of_bind_ok h
    obtain ⟨freq, -, h⟩ := exists_ok_of_bind_ok h
    obtain ⟨d, -, h⟩ := exists_ok_of_bind_ok h
    split at h
    · cases h
    · next hd =>
      obtain ⟨ex, hex, h⟩ := exists_ok_of_bind_ok h
      simp only [pure, Except.pure, Except.ok.injEq, Prod.mk.injEq] at h
      obtain ⟨rfl, rfl, rfl, rfl⟩ := h
      exact ⟨_, _, by omega, rfl, rfl, hex, by simp⟩

/-- Cycled and replay experiments run the six-hourly main cadence (replay also the first cycle
alone) and the resolved secondary cadence when it runs. -/
theorem layout_cycled {e : Experiment} {cads : List Cadence} {sec : Option Secondary}
    {extra : List (String × Config.Value)} {g : CycleGroup}
    (hm : e.mode = .cycled ∨ e.mode = .replay) (h : layout e = .ok (cads, sec, extra, g)) :
    ∃ delay freq, 0 ≤ delay.seconds ∧
      sec = some (resolveSecondary e.sdate e.edate .synoptic delay freq) ∧ g = .gdas ∧
      cads =
        (if e.mode = .replay then [Cadence.active .first e.sdate e.sdate Span.sixHours] else []) ++
        [Cadence.active .gdas e.sdate e.edate Span.sixHours] ++
        (if (resolveSecondary e.sdate e.edate .synoptic delay freq).cadence.valid then
          [(resolveSecondary e.sdate e.edate .synoptic delay freq).cadence] else []) := by
  obtain ⟨delay, freq, hd, hs, hg, -, hc⟩ := layout_cycled_spec hm h
  exact ⟨delay, freq, hd, hs, hg, hc⟩

/-- Forecast-only experiments run their group's cadence at a positive interval, and the
statistics cadence six hours behind it when the statistics are on. -/
theorem layout_forecastOnly {e : Experiment} {cads : List Cadence} {sec : Option Secondary}
    {extra : List (String × Config.Value)} {g : CycleGroup}
    (hm : e.mode = .forecastOnly) (h : layout e = .ok (cads, sec, extra, g)) :
    ∃ interval doGomg, 0 < interval.seconds ∧ e.base.flag "DO_OmF" false = .ok doGomg ∧
      sec = none ∧ extra = [("INTERVAL", .text interval.hms)] ∧
      cads = [Cadence.active g.defaultCadence e.sdate e.edate interval] ++
        (if doGomg then [Cadence.active .gomg ⟨e.sdate.seconds + Span.sixHours.seconds⟩
          ⟨e.edate.seconds + Span.sixHours.seconds⟩ interval] else []) := by
  unfold layout at h
  simp only [hm] at h
  obtain ⟨doGomg, hgomg, h⟩ := exists_ok_of_bind_ok h
  -- the group is read or defaulted; the rest of the layout is the same for either
  split at h <;> (try split at h)
  all_goals
    obtain ⟨group, -, h⟩ := exists_ok_of_bind_ok h
    obtain ⟨days, hdays, h⟩ := exists_ok_of_bind_ok h
    -- the interval is a positive number of days, else the frequency's, else six hours
    split at h
    · obtain ⟨interval, hint, h⟩ := exists_ok_of_bind_ok h
      simp only [pure, Except.pure, Except.ok.injEq, Prod.mk.injEq] at h hint
      obtain ⟨rfl, rfl, rfl, rfl⟩ := h
      subst hint
      exact ⟨_, doGomg, intervalDays_pos hdays, hgomg, rfl, rfl, by cases doGomg <;> simp_all⟩
    · obtain ⟨n, -, h⟩ := exists_ok_of_bind_ok h
      obtain ⟨f, -, h⟩ := exists_ok_of_bind_ok h
      obtain ⟨interval, hint, h⟩ := exists_ok_of_bind_ok h
      simp only [pure, Except.pure, Except.ok.injEq, Prod.mk.injEq] at h hint
      obtain ⟨rfl, rfl, rfl, rfl⟩ := h
      subst hint
      refine ⟨f.interval.getD Span.sixHours, doGomg, ?_, hgomg, rfl, rfl,
        by cases doGomg <;> simp_all⟩
      cases hfi : f.interval with
      | none => decide
      | some d => simpa using Frequency.interval_pos hfi

/-- An observation-minus-forecast or ensemble regridding layout: the main cadence of the
data-assimilation group at a positive interval, which is the one key derived. -/
theorem layout_single_spec {e : Experiment} {cads : List Cadence} {sec : Option Secondary}
    {extra : List (String × Config.Value)} {g : CycleGroup}
    (hm : e.mode = .omf ∨ e.mode = .ensRegrid) (h : layout e = .ok (cads, sec, extra, g)) :
    ∃ interval, 0 < interval.seconds ∧ sec = none ∧ g = .gdas ∧
      extra = [("INTERVAL", .text interval.hms)] ∧
      cads = [Cadence.active .gdas e.sdate e.edate interval] := by
  unfold layout at h
  rcases hm with hm | hm <;> simp only [hm] at h
  · obtain ⟨days, hdays, h⟩ := exists_ok_of_bind_ok h
    simp only [pure, Except.pure, Except.ok.injEq, Prod.mk.injEq] at h
    obtain ⟨rfl, rfl, rfl, rfl⟩ := h
    refine ⟨_, ?_, rfl, rfl, rfl, rfl⟩
    cases days with
    | none => decide
    | some d => exact intervalDays_pos hdays
  · obtain ⟨count?, -, h⟩ := exists_ok_of_bind_ok h
    split at h
    · split at h
      · split at h
        · next d hd =>
          obtain ⟨interval, hint, h⟩ := exists_ok_of_bind_ok h
          simp only [pure, Except.pure, Except.ok.injEq, Prod.mk.injEq] at h hint
          obtain ⟨rfl, rfl, rfl, rfl⟩ := h
          subst hint
          exact ⟨_, Frequency.interval_pos hd, rfl, rfl, rfl, rfl⟩
        · obtain ⟨_, hint, -⟩ := exists_ok_of_bind_ok h
          cases hint
      · obtain ⟨_, hint, -⟩ := exists_ok_of_bind_ok h
        cases hint
    · cases h

/-- Observation-minus-forecast and ensemble regridding experiments run the main cadence of the
data-assimilation group at a positive interval. -/
theorem layout_single {e : Experiment} {cads : List Cadence} {sec : Option Secondary}
    {extra : List (String × Config.Value)} {g : CycleGroup}
    (hm : e.mode = .omf ∨ e.mode = .ensRegrid) (h : layout e = .ok (cads, sec, extra, g)) :
    ∃ interval, 0 < interval.seconds ∧ sec = none ∧ g = .gdas ∧
      cads = [Cadence.active .gdas e.sdate e.edate interval] := by
  obtain ⟨interval, hi, hs, hg, -, hc⟩ := layout_single_spec hm h
  exact ⟨interval, hi, hs, hg, hc⟩

/-- The modes other than cycled and replay derive their interval only. -/
theorem layout_extra_of_not_cycled {e : Experiment} {cads : List Cadence}
    {sec : Option Secondary} {extra : List (String × Config.Value)} {g : CycleGroup}
    (hc : e.mode ≠ .cycled) (hr : e.mode ≠ .replay) (h : layout e = .ok (cads, sec, extra, g)) :
    ∃ interval : Span, extra = [("INTERVAL", .text interval.hms)] := by
  cases hm : e.mode
  case cycled => exact absurd hm hc
  case replay => exact absurd hm hr
  case forecastOnly =>
    obtain ⟨interval, -, -, -, -, rfl, -⟩ := layout_forecastOnly hm h
    exact ⟨interval, rfl⟩
  case omf | ensRegrid =>
    obtain ⟨interval, -, -, -, rfl, -⟩ := layout_single_spec (by simp [hm]) h
    exact ⟨interval, rfl⟩

/-! ### Derived calendars -/

/-- Every laid-out cadence steps forward by a positive interval. -/
theorem layout_interval_pos {e : Experiment} {cads : List Cadence} {sec : Option Secondary}
    {extra : List (String × Config.Value)} {g : CycleGroup}
    (h : layout e = .ok (cads, sec, extra, g)) : ∀ cad ∈ cads, 0 < cad.interval.seconds := by
  intro cad hcad
  cases hm : e.mode
  case cycled | replay =>
    obtain ⟨delay, freq, -, -, -, rfl⟩ := layout_cycled (by simp [hm]) h
    simp only [List.mem_append, List.mem_ite_nil_right, List.mem_singleton] at hcad
    rcases hcad with (⟨-, rfl⟩ | rfl) | ⟨hv, rfl⟩
    · simp [Cadence.active, Span.sixHours]
    · simp [Cadence.active, Span.sixHours]
    · exact resolveSecondary_interval_pos hv
  case forecastOnly =>
    obtain ⟨interval, doGomg, hi, -, -, -, rfl⟩ := layout_forecastOnly hm h
    simp only [List.mem_append, List.mem_ite_nil_right, List.mem_singleton] at hcad
    rcases hcad with rfl | ⟨-, rfl⟩ <;> exact hi
  case omf | ensRegrid =>
    obtain ⟨interval, hi, -, -, rfl⟩ := layout_single (by simp [hm]) h
    simp only [List.mem_singleton] at hcad
    subst hcad
    exact hi

/-- A derived calendar holds the laid-out cadences and group, and the experiment with the
derived keys added to its base. -/
theorem derive_ok {e : Experiment} {cal : Calendar} (h : derive e = .ok cal) :
    ∃ extra, layout e = .ok (cal.cadences, cal.secondary, extra, cal.primaryGroup) ∧
      cal.experiment =
        e.withBase (e.base.extend (extra ++ [("CDUMP", .text cal.primaryGroup.label)])) := by
  unfold derive at h
  obtain ⟨⟨cads, sec, extra, g⟩, hl, h⟩ := exists_ok_of_bind_ok h
  obtain rfl := Except.ok.inj h
  exact ⟨extra, hl, rfl⟩

/-- Every cadence of a derived calendar steps forward by a positive interval. -/
theorem derive_interval_pos {e : Experiment} {cal : Calendar} (h : derive e = .ok cal) :
    ∀ cad ∈ cal.cadences, 0 < cad.interval.seconds := by
  obtain ⟨extra, hl, -⟩ := derive_ok h
  exact layout_interval_pos hl

/-- A derived calendar keeps the experiment's mode. -/
theorem derive_mode {e : Experiment} {cal : Calendar} (h : derive e = .ok cal) :
    cal.experiment.mode = e.mode := by
  obtain ⟨extra, -, he⟩ := derive_ok h
  rw [he]
  rfl

/-- In cycled and replay experiments the data-assimilation cadence runs. -/
theorem derive_gdas_valid {e : Experiment} {cal : Calendar} (h : derive e = .ok cal)
    (hm : e.mode = .cycled ∨ e.mode = .replay) : cal.isValid .gdas = true := by
  obtain ⟨extra, hl, -⟩ := derive_ok h
  obtain ⟨delay, freq, -, -, -, hc⟩ := layout_cycled hm hl
  rcases hm with hm | hm <;> simp [isValid, cadence?, hc, hm, Cadence.active]

/-- A replay experiment runs its first cycle. -/
theorem derive_first_valid {e : Experiment} {cal : Calendar} (h : derive e = .ok cal)
    (hm : e.mode = .replay) : cal.isValid .first = true := by
  obtain ⟨extra, hl, -⟩ := derive_ok h
  obtain ⟨delay, freq, -, -, -, hc⟩ := layout_cycled (.inr hm) hl
  simp [isValid, cadence?, hc, hm, Cadence.active]

/-- In cycled and replay experiments the long-forecast cadence runs exactly when the
secondary cadence resolves to a running one. -/
theorem derive_gfs_valid_iff {e : Experiment} {cal : Calendar} (h : derive e = .ok cal)
    (hm : e.mode = .cycled ∨ e.mode = .replay) :
    cal.isValid .gfs = true ↔ ∃ sec, cal.secondary = some sec ∧ sec.cadence.valid = true := by
  obtain ⟨extra, hl, -⟩ := derive_ok h
  obtain ⟨delay, freq, -, hsec, -, hc⟩ := layout_cycled hm hl
  rw [hsec]
  have hid := resolveSecondary_id e.sdate e.edate .synoptic delay freq
  -- the first and main cadences are not the long-forecast one
  rcases hm with hm | hm <;>
    cases hv : (resolveSecondary e.sdate e.edate .synoptic delay freq).cadence.valid <;>
    simp [isValid, cadence?, hc, hm, hv, hid, Cadence.active]

/-- A forecast-only experiment runs the statistics cadence when its derived base turns the
statistics on: deriving adds only the interval and the group to the base. -/
theorem derive_gomg_valid {e : Experiment} {cal : Calendar} (h : derive e = .ok cal)
    (hm : e.mode = .forecastOnly) (hf : cal.base.flag "DO_OmF" false = .ok true) :
    cal.isValid .gomg = true := by
  obtain ⟨extra, hl, he⟩ := derive_ok h
  obtain ⟨interval, doGomg, -, hg, -, rfl, hc⟩ := layout_forecastOnly hm hl
  have hbase : cal.base.flag "DO_OmF" false = e.base.flag "DO_OmF" false := by
    rw [base, he]
    exact Config.Scope.flag_congr (Config.Scope.get?_extend_of_not_mem _ (by simp)) false
  obtain rfl : doGomg = true := Except.ok.inj (hg.symm.trans (hbase.symm.trans hf))
  cases hgroup : cal.primaryGroup <;>
    simp [isValid, cadence?, hc, hgroup, Cadence.active, CycleGroup.defaultCadence]

end Calendar

end CycledWorkflow
