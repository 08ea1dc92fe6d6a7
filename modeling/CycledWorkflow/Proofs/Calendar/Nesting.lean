import CycledWorkflow.Proofs.Calendar.Layout
/-!
# When the long-forecast cycles fall on main cycles

The main cadence of a cycled or replay experiment steps six hours from its start, whatever
hour of the day that start is. The long-forecast cadence counts its boundaries from 00Z
instead: its cycles fall on whole intervals (a day, half a day or six hours) past midnight,
from the first boundary a six-hour lead-in after the start. The two cadences therefore meet
exactly when the start is itself on a synoptic hour. Then every long-forecast cycle is a main
cycle, and the one six hours before it is a main cycle too or comes before the start. When the
start is off the synoptic hours, the first long-forecast cycle already falls between two main
ones, and the long-forecast tasks wait on main tasks of cycles that never run.

Main statement: `gfs_cycles_mem_gdas_iff`.
-/

namespace CycledWorkflow

/-! ### Boundaries counted from 00Z -/

/-- The intervals a running frequency steps by, in seconds. -/
theorem Frequency.interval_cases {f : Frequency} {i : Span} (h : f.interval = some i) :
    i.seconds = 86400 ∨ i.seconds = 43200 ∨ i.seconds = 21600 := by
  cases f <;> simp [Frequency.interval] at h <;> subst h <;> decide

/-- Counted from 00Z, the time past the latest boundary is the remainder by the interval: the
interval divides a day, so the day's midnight is itself a boundary. -/
theorem secondsPastBoundary_synoptic {f : Frequency} {i : Span} (hf : f.interval = some i)
    (t : Moment) : secondsPastBoundary t i 0 = t.seconds % i.seconds := by
  have hi := Frequency.interval_cases hf
  -- midnight of the day never comes after the moment itself
  have hanchor : ¬ t < t.atHour (0 % 24) := by
    show ¬ t.seconds < t.seconds / 86400 * 86400 + (0 % 24 : Nat) * 3600
    omega
  unfold secondsPastBoundary
  dsimp only
  rw [if_neg hanchor]
  have hstep : max i.seconds 1 = i.seconds := by omega
  simp only [Moment.diffSeconds, Moment.atHour, Moment.dayNumber, hstep]
  rcases hi with hi | hi | hi <;> simp [hi] <;> omega

/-- The ceiling to a boundary counted from 00Z is a whole number of intervals past midnight,
and lies no more than the dropped seconds before the moment. -/
theorem ceilToBoundary_synoptic {f : Frequency} {i : Span} (hf : f.interval = some i)
    {t s : Moment} (h : ceilToBoundary t i 0 = some s) :
    s.seconds % i.seconds = 0 ∧ t.seconds - 60 < s.seconds := by
  have hi := Frequency.interval_cases hf
  unfold ceilToBoundary at h
  dsimp only at h
  rw [secondsPastBoundary_synoptic hf] at h
  split at h
  · next hr =>
    -- already on a boundary once the seconds are dropped
    obtain rfl := Option.some.inj h
    simp only [Moment.truncateSeconds, Moment.second, Moment.secondOfDay] at hr ⊢
    omega
  · next hr =>
    -- moved forward by what is left of the interval
    obtain ⟨d, hd, h⟩ := Option.bind_eq_some_iff.mp h
    unfold Span.ofSeconds? at hd
    split at hd
    · obtain rfl := Option.some.inj hd
      unfold Moment.addSpan? at h
      dsimp only at h
      split at h
      · obtain rfl := Option.some.inj h
        simp only [Moment.truncateSeconds, Moment.second, Moment.secondOfDay] at hr ⊢
        rcases hi with hi | hi | hi <;> rw [hi] at hr ⊢ <;> omega
      · cases h
    · cases hd

/-- The floor to a boundary counted from 00Z drops the remainder by the interval. -/
theorem floorToBoundary_synoptic {f : Frequency} {i : Span} (hf : f.interval = some i)
    (t : Moment) : (floorToBoundary t i 0).seconds = t.seconds - t.seconds % i.seconds := by
  unfold floorToBoundary
  rw [secondsPastBoundary_synoptic hf]

theorem Moment.addSpan?_seconds {t u : Moment} {d : Span} (h : t.addSpan? d = some u) :
    u.seconds = t.seconds + d.seconds := by
  unfold Moment.addSpan? at h
  dsimp only at h
  split at h
  · rw [← Option.some.inj h]
  · cases h

/-! ### The cycles of a cadence -/

/-- A running cadence counts exactly the steps from its start that stay within its finish. -/
theorem Cadence.lt_cycleCount_iff {c : Cadence} (hv : c.valid = true)
    (hi : 0 < c.interval.seconds) (k : Nat) :
    k < c.cycleCount ↔ c.start.seconds + k * c.interval.seconds ≤ c.finish.seconds := by
  have hk0 : (0 : Int) ≤ k * c.interval.seconds :=
    Int.mul_nonneg (Int.natCast_nonneg k) (Int.le_of_lt hi)
  unfold cycleCount
  split
  · next hc =>
    have hsf : c.start.seconds ≤ c.finish.seconds := hc.2.2
    have hq : 0 ≤ (c.finish.seconds - c.start.seconds) / c.interval.seconds :=
      Int.ediv_nonneg (by omega) (Int.le_of_lt hi)
    calc k < ((c.finish.seconds - c.start.seconds) / c.interval.seconds).toNat + 1
        ↔ (k : Int) ≤ (c.finish.seconds - c.start.seconds) / c.interval.seconds := by omega
      _ ↔ k * c.interval.seconds ≤ c.finish.seconds - c.start.seconds :=
        Int.le_ediv_iff_mul_le hi
      _ ↔ c.start.seconds + k * c.interval.seconds ≤ c.finish.seconds := by omega
  · next hc =>
    -- a running cadence with a positive interval counts nothing only when it ends before it
    -- starts, and then no step stays within the finish
    have hfs : ¬c.start.seconds ≤ c.finish.seconds := fun h => hc ⟨hv, hi, h⟩
    omega

/-- The cycles of a running cadence are the moments a whole number of intervals after its
start, up to its finish. -/
theorem Cadence.mem_cycles {c : Cadence} (hv : c.valid = true) (hi : 0 < c.interval.seconds)
    {t : Moment} :
    t ∈ c.cycles ↔ ∃ k : Nat, t.seconds = c.start.seconds + k * c.interval.seconds ∧
      t.seconds ≤ c.finish.seconds := by
  unfold cycles firstCycles
  rw [Nat.min_self]
  simp only [List.mem_map, List.mem_range]
  constructor
  · rintro ⟨k, hk, rfl⟩
    exact ⟨k, rfl, (lt_cycleCount_iff hv hi k).mp hk⟩
  · rintro ⟨k, hk, hle⟩
    refine ⟨k, (lt_cycleCount_iff hv hi k).mpr (hk ▸ hle), ?_⟩
    cases t
    simp_all

/-! ### The resolved secondary cadence -/

/-- The first secondary cycle, the ceiling of the start after a non-negative delay and the
lead-in, falls on a boundary counted from 00Z after the start. -/
theorem firstBoundary_synoptic {f : Frequency} {i : Span} (hf : f.interval = some i)
    {start s : Moment} {delay : Span} (hd : 0 ≤ delay.seconds)
    (h : ((start.addSpan? delay).bind (·.addSpan? Alignment.synoptic.leadIn)).bind
      (ceilToBoundary · i Alignment.synoptic.anchorHour) = some s) :
    s.seconds % i.seconds = 0 ∧ start.seconds < s.seconds := by
  obtain ⟨v, hv, hceil⟩ := Option.bind_eq_some_iff.mp h
  obtain ⟨u, hu, hvu⟩ := Option.bind_eq_some_iff.mp hv
  have hu' := Moment.addSpan?_seconds hu
  have hv' := Moment.addSpan?_seconds hvu
  obtain ⟨hsi, hsv⟩ := ceilToBoundary_synoptic hf hceil
  -- the lead-in of six hours outweighs the seconds the ceiling drops
  simp only [Alignment.synoptic, Span.sixHours] at hv'
  exact ⟨hsi, by omega⟩

/-- A running secondary cadence with synoptic alignment starts on a boundary counted from
00Z, after the main start and no later than the main finish, and ends on the last boundary
before the main finish. -/
theorem resolveSecondary_synoptic {start finish : Moment} {delay : Span} {freq : Frequency}
    {c : Cadence} (hc : (resolveSecondary start finish .synoptic delay freq).cadence = c)
    (hv : c.valid = true) :
    ∃ i, freq.interval = some i ∧ c.interval = i ∧ c.start.seconds % i.seconds = 0 ∧
      start.seconds < c.start.seconds ∧ c.start.seconds ≤ finish.seconds ∧
      c.finish.seconds = finish.seconds - finish.seconds % i.seconds := by
  unfold resolveSecondary at hc
  cases hf : freq.interval with
  | none =>
    simp only [hf] at hc
    subst hc
    simp [Cadence.disabled] at hv
  | some i =>
    simp only [hf] at hc
    split at hc
    · next s hs =>
      split at hc
      · next hle =>
        subst hc
        -- a negative delay counts as none
        have hd : 0 ≤ (if delay.seconds < 0 then Span.zero else delay).seconds := by
          split
          · exact Int.le_refl 0
          · omega
        obtain ⟨hsi, hlt⟩ := firstBoundary_synoptic hf hd hs
        exact ⟨i, rfl, rfl, hsi, hlt, hle, floorToBoundary_synoptic hf finish⟩
      · subst hc
        simp [Cadence.disabled] at hv
    · subst hc
      simp [Cadence.disabled] at hv

/-- Every cycle of a running synoptic secondary cadence falls on a six-hour boundary counted
from 00Z, after the main start and within the main window. -/
theorem cycles_resolveSecondary_synoptic {start finish : Moment} {delay : Span}
    {freq : Frequency} {c : Cadence}
    (hc : (resolveSecondary start finish .synoptic delay freq).cadence = c) (hv : c.valid = true)
    {t : Moment} (ht : t ∈ c.cycles) :
    t.seconds % Span.sixHours.seconds = 0 ∧ start.seconds < t.seconds ∧
      t.seconds ≤ finish.seconds := by
  obtain ⟨i, hfi, hci, hsi, hlt, -, hfin⟩ := resolveSecondary_synoptic hc hv
  have hi := Frequency.interval_cases hfi
  have hpos : 0 < c.interval.seconds := by rw [hci]; omega
  obtain ⟨k, hk, hkf⟩ := (Cadence.mem_cycles hv hpos).mp ht
  rw [hci] at hk
  have hk0 : (0 : Int) ≤ k * i.seconds := Int.mul_nonneg (Int.natCast_nonneg k) (by omega)
  -- each interval is a whole number of six-hour steps
  simp only [Span.sixHours]
  rcases hi with hi | hi | hi <;> rw [hi] at hk hsi hfin <;> omega

/-- A running synoptic secondary cadence runs its first cycle. -/
theorem start_mem_cycles_resolveSecondary {start finish : Moment} {delay : Span}
    {freq : Frequency} {c : Cadence}
    (hc : (resolveSecondary start finish .synoptic delay freq).cadence = c)
    (hv : c.valid = true) : c.start ∈ c.cycles := by
  obtain ⟨i, hfi, hci, hsi, -, hle, hfin⟩ := resolveSecondary_synoptic hc hv
  have hi := Frequency.interval_cases hfi
  have hpos : 0 < c.interval.seconds := by rw [hci]; omega
  refine (Cadence.mem_cycles hv hpos).mpr ⟨0, by simp, ?_⟩
  -- the start is a boundary no later than the finish, so no later than the last boundary
  rw [hfin]
  rcases hi with hi | hi | hi <;> rw [hi] at hsi ⊢ <;> omega

/-- The cycles of a six-hour cadence are the moments a whole number of six hours after its
start, up to its finish. -/
theorem Cadence.mem_cycles_active_sixHours {id : CadenceId} {s f t : Moment} :
    t ∈ (Cadence.active id s f Span.sixHours).cycles ↔
      s.seconds ≤ t.seconds ∧ t.seconds ≤ f.seconds ∧
        (t.seconds - s.seconds) % Span.sixHours.seconds = 0 := by
  rw [Cadence.mem_cycles rfl (show (0 : Int) < 21600 by decide)]
  simp only [Cadence.active, Span.sixHours]
  constructor
  · rintro ⟨k, hk, hle⟩
    omega
  · rintro ⟨hs, hf, hm⟩
    exact ⟨((t.seconds - s.seconds) / 21600).toNat, by omega, hf⟩

namespace Calendar

/-- In cycled and replay experiments the main cadence steps six hours from the start to the
end of the window. -/
theorem derive_gdas_cadence {e : Experiment} {cal : Calendar} (h : derive e = .ok cal)
    (hm : e.mode = .cycled ∨ e.mode = .replay) :
    cal.cadence? .gdas = some (Cadence.active .gdas e.sdate e.edate Span.sixHours) := by
  obtain ⟨extra, hl, -⟩ := derive_ok h
  obtain ⟨delay, freq, -, -, -, hc⟩ := layout_cycled hm hl
  rcases hm with hm | hm <;> simp [cadence?, hc, hm, Cadence.active]

/-- In a cycled or replay experiment with a running long-forecast cadence, every long-forecast
cycle is a main cycle exactly when the experiment starts on a synoptic hour. Then the cycle six
hours before each long-forecast cycle is a main cycle too, or comes before the start. -/
theorem gfs_cycles_mem_gdas_iff {e : Experiment} {cal : Calendar} {sec : Secondary}
    (hd : derive e = .ok cal) (hm : e.mode = .cycled ∨ e.mode = .replay)
    (hs : cal.secondary = some sec) (hv : sec.cadence.valid = true) :
    ∃ gd, cal.cadence? .gdas = some gd ∧
      ((∀ t ∈ sec.cadence.cycles, t ∈ gd.cycles) ↔
        e.sdate.seconds % Span.sixHours.seconds = 0) ∧
      (e.sdate.seconds % Span.sixHours.seconds = 0 → ∀ t ∈ sec.cadence.cycles,
        t.seconds - Span.sixHours.seconds < e.sdate.seconds ∨
          (⟨t.seconds - Span.sixHours.seconds⟩ : Moment) ∈ gd.cycles) := by
  obtain ⟨extra, hl, -⟩ := derive_ok hd
  obtain ⟨delay, freq, -, hsec, -, -⟩ := layout_cycled hm hl
  have hres : (resolveSecondary e.sdate e.edate .synoptic delay freq).cadence = sec.cadence := by
    rw [← Option.some.inj (hs.symm.trans hsec)]
  -- the long-forecast cycles nest in the main ones once the start is synoptic
  have hnest : e.sdate.seconds % Span.sixHours.seconds = 0 → ∀ t ∈ sec.cadence.cycles,
      t ∈ (Cadence.active .gdas e.sdate e.edate Span.sixHours).cycles := by
    intro hsyn t ht
    obtain ⟨ht6, hlt, hle⟩ := cycles_resolveSecondary_synoptic hres hv ht
    rw [Cadence.mem_cycles_active_sixHours]
    simp only [Span.sixHours] at hsyn ht6 ⊢
    omega
  refine ⟨_, derive_gdas_cadence hd hm, ⟨fun hall => ?_, hnest⟩, fun hsyn t ht => ?_⟩
  · -- the first long-forecast cycle is on a synoptic hour and six-hourly from the start
    have hstart := start_mem_cycles_resolveSecondary hres hv
    obtain ⟨h6, -, -⟩ := cycles_resolveSecondary_synoptic hres hv hstart
    obtain ⟨-, -, hstep⟩ := Cadence.mem_cycles_active_sixHours.mp (hall _ hstart)
    simp only [Span.sixHours] at h6 hstep ⊢
    omega
  · obtain ⟨hs, hf, hstep⟩ := Cadence.mem_cycles_active_sixHours.mp (hnest hsyn t ht)
    rw [Cadence.mem_cycles_active_sixHours]
    simp only [Span.sixHours] at hstep ⊢
    omega

/-- A cycled configuration from 2021-12-20T03 to 2021-12-21T21 with four long forecasts a
day: its window starts three hours past a synoptic hour. -/
def offSynopticDocument : Config.Document where
  base := { entries := [("EDATE", .text "2021122121"), ("MODE", .text "cycled"), ("PSLOT", .text "x"),
    ("SCHEDULER", .text "slurm"), ("SDATE", .text "2021122003"), ("gfs_cyc", .int 4)] }
  sections := []

/-- The experiment the off-synoptic configuration checks to. -/
def offSynopticSample : Experiment where
  mode := .cycled
  base := offSynopticDocument.base
  sections := []
  sdate := ⟨1639969200⟩
  edate := ⟨1640120400⟩

/-- The off-synoptic configuration is accepted and runs a long-forecast cadence, yet not all of
its long-forecast cycles are main cycles. -/
theorem offSynoptic_gfs_cycles_not_nested :
    Experiment.ofDocument offSynopticDocument = .ok offSynopticSample ∧
      ∃ cal sec gd, derive offSynopticSample = .ok cal ∧ cal.secondary = some sec ∧
        sec.cadence.valid = true ∧ cal.cadence? .gdas = some gd ∧
        ¬ ∀ t ∈ sec.cadence.cycles, t ∈ gd.cycles := by
  refine ⟨rfl, ?_⟩
  obtain ⟨gd, hg, hiff, -⟩ :=
    gfs_cycles_mem_gdas_iff (e := offSynopticSample) rfl (.inl rfl) rfl rfl
  exact ⟨_, _, gd, rfl, rfl, rfl, hg, fun h => absurd (hiff.mp h) (by decide)⟩

end Calendar

end CycledWorkflow
