import CycledWorkflow.Proofs.Calendar.Nesting
/-!
# The cycles of a cadence, step by step

A cadence runs its cycles by stepping: it starts at its first cycle and adds its interval while
the moment reached is not after its finish. The addition is checked, and the stepping also stops
when the sum leaves the range of moments. Here the stepping is written as it runs
(`cyclesFrom`, `steppedCycles`), one step at a time with that checked addition, and shown to
give the closed form the cadence counts with: one cycle for every whole interval from the
start up to the finish.

The step lemma is `cycles_eq_cons`: a running cadence runs its start, then the cycles of the
cadence restarted one interval later. By induction along the steps, stepping from a moment of
the range gives the cycles of the cadence restarted there (`cyclesFrom_eq_cycles`); a step that
leaves the range has passed every finish of the range, so stopping there loses nothing.

Main statement: `cycles_enumerate_cadence`.
-/
namespace CycledWorkflow

/-- A sum of a moment of the range and a span that is not a moment of the range overshoots
the last moment when the span is not negative. -/
theorem Moment.last_lt_of_addSpan?_eq_none {t : Moment} {d : Span} (h : t.addSpan? d = none)
    (ht : Moment.first ≤ t) (hd : 0 ≤ d.seconds) :
    Moment.last.seconds < t.seconds + d.seconds := by
  unfold Moment.addSpan? at h
  dsimp only at h
  split at h
  · cases h
  · next hr =>
    simp only [Moment.inRange, decide_eq_true_eq, not_and] at hr
    have ht' : Moment.first.seconds ≤ t.seconds := ht
    have hout := hr (show Moment.first.seconds ≤ t.seconds + d.seconds by omega)
    exact Int.not_le.mp hout

namespace Cadence

/-- The cycles from `t` on, one interval apart: `t` itself while it is not after the finish,
then the cycles from the moment one interval later, as long as that sum is a moment of the
range. -/
def cyclesFrom (finish : Moment) (interval : Span) (hi : 0 < interval.seconds) (t : Moment) :
    List Moment :=
  if t ≤ finish then
    t :: match _hnext : t.addSpan? interval with
      | some u => cyclesFrom finish interval hi u
      | none => []
  else []
termination_by (finish.seconds + 1 - t.seconds).toNat
decreasing_by
  have hu := Moment.addSpan?_seconds _hnext
  have ht : t.seconds ≤ finish.seconds := by assumption
  omega

/-- The cycles of a cadence counted one interval at a time: none for a disabled cadence or one
whose interval is not positive, else the cycles from its start. -/
def steppedCycles (c : Cadence) : List Moment :=
  if h : c.valid = true ∧ 0 < c.interval.seconds then cyclesFrom c.finish c.interval h.2 c.start
  else []

/-- The cadence restarted at another moment. -/
def restart (c : Cadence) (t : Moment) : Cadence := { c with start := t }

@[simp] theorem restart_start (c : Cadence) (t : Moment) : (c.restart t).start = t := rfl
@[simp] theorem restart_finish (c : Cadence) (t : Moment) : (c.restart t).finish = c.finish := rfl
@[simp] theorem restart_interval (c : Cadence) (t : Moment) :
    (c.restart t).interval = c.interval := rfl
@[simp] theorem restart_start_self (c : Cadence) : c.restart c.start = c := rfl
@[simp] theorem restart_restart (c : Cadence) (t u : Moment) :
    (c.restart t).restart u = c.restart u := rfl

/-- A cadence that does not run, or starts after its finish, has no cycles. -/
theorem cycles_of_not_counted {c : Cadence}
    (h : ¬(c.valid = true ∧ 0 < c.interval.seconds ∧ c.start ≤ c.finish)) : c.cycles = [] := by
  have hn : c.cycleCount = 0 := by
    unfold cycleCount
    rw [if_neg h]
  exact List.eq_nil_of_length_eq_zero ((cycles_length c).trans hn)

/-- A cadence whose start is after its finish has no cycles. -/
theorem cycles_of_finish_lt {c : Cadence} (h : c.finish < c.start) : c.cycles = [] :=
  cycles_of_not_counted fun hc => absurd hc.2.2 (Int.not_le.mpr h)

/-- Restarted one interval later, a running cadence counts one cycle fewer. -/
theorem cycleCount_restart {c : Cadence} (hv : c.valid = true) (hi : 0 < c.interval.seconds)
    (hs : c.start ≤ c.finish) :
    (c.restart ⟨c.start.seconds + c.interval.seconds⟩).cycleCount + 1 = c.cycleCount := by
  -- both counts are the steps that stay within the finish, one step apart
  have hc := lt_cycleCount_iff hv hi
  have hr := lt_cycleCount_iff (c := c.restart ⟨c.start.seconds + c.interval.seconds⟩) hv hi
  simp only [restart_start, restart_finish, restart_interval] at hr
  have hiff : ∀ k : Nat, k < (c.restart ⟨c.start.seconds + c.interval.seconds⟩).cycleCount ↔
      k + 1 < c.cycleCount := by
    intro k
    rw [hr k, hc (k + 1), Int.natCast_add, Int.add_mul, Int.natCast_one, Int.one_mul]
    omega
  have hs' : c.start.seconds ≤ c.finish.seconds := hs
  have h0 : 0 < c.cycleCount := (hc 0).mpr (by simpa using hs')
  have h1 := hiff (c.restart ⟨c.start.seconds + c.interval.seconds⟩).cycleCount
  have h2 := hiff (c.cycleCount - 1)
  omega

/-- A running cadence whose start is not after its finish runs its start, then the cycles of the
cadence restarted one interval later. -/
theorem cycles_eq_cons {c : Cadence} (hv : c.valid = true) (hi : 0 < c.interval.seconds)
    (hs : c.start ≤ c.finish) :
    c.cycles = c.start :: (c.restart ⟨c.start.seconds + c.interval.seconds⟩).cycles := by
  have hn := cycleCount_restart hv hi hs
  simp only [cycles, firstCycles, Nat.min_self, restart_start, restart_interval]
  rw [← hn, List.range_succ_eq_map, List.map_cons, List.map_map]
  congr 1
  · simp
  · apply List.map_congr_left
    intro k _
    simp only [Function.comp_apply, Moment.mk.injEq, Nat.succ_eq_add_one]
    rw [Int.natCast_add, Int.add_mul, Int.natCast_one, Int.one_mul]
    omega

/-- Stepping one interval at a time from a moment of the range gives the cycles of the cadence
restarted there, as long as the finish is a moment of the range. -/
theorem cyclesFrom_eq_cycles {c : Cadence} (hv : c.valid = true) (hi : 0 < c.interval.seconds)
    (hf : c.finish ≤ Moment.last) (t : Moment) (ht : Moment.first ≤ t) :
    cyclesFrom c.finish c.interval hi t = (c.restart t).cycles := by
  -- induction along the steps; each step is the one-step unfolding of the closed form
  fun_induction cyclesFrom c.finish c.interval hi t with
  | case1 t hle ih =>
    rw [cycles_eq_cons (c := c.restart t) hv hi hle, restart_restart, restart_start,
      restart_interval]
    congr 1
    have ht' : Moment.first.seconds ≤ t.seconds := ht
    split
    · next u hnext =>
      have hu := Moment.addSpan?_seconds hnext
      have hut : u = ⟨t.seconds + c.interval.seconds⟩ := by
        cases u
        exact congrArg Moment.mk hu
      rw [ih u hnext (show Moment.first.seconds ≤ u.seconds by omega), hut]
    · next hnext =>
      -- the next step leaves the range, so it is past the finish
      have hover := Moment.last_lt_of_addSpan?_eq_none hnext ht (Int.le_of_lt hi)
      have hf' : c.finish.seconds ≤ Moment.last.seconds := hf
      rw [cycles_of_finish_lt (show c.finish.seconds < t.seconds + c.interval.seconds by omega)]
  | case2 t hgt =>
    exact (cycles_of_finish_lt (Int.not_le.mp hgt)).symm

/-- A cadence that is disabled or whose interval is not positive has no cycles. -/
theorem cycles_of_not_running {c : Cadence} (h : ¬(c.valid = true ∧ 0 < c.interval.seconds)) :
    c.cycles = [] :=
  cycles_of_not_counted fun hc => h ⟨hc.1, hc.2.1⟩

/-- The cycles of a running cadence whose start is not after its finish, in closed form. -/
theorem cycles_eq_map_range {c : Cadence} (hv : c.valid = true) (hi : 0 < c.interval.seconds)
    (hs : c.start ≤ c.finish) :
    c.cycles =
      (List.range (((c.finish.seconds - c.start.seconds) / c.interval.seconds).toNat + 1)).map
        fun k : Nat => (⟨c.start.seconds + k * c.interval.seconds⟩ : Moment) := by
  have hn : c.cycleCount =
      ((c.finish.seconds - c.start.seconds) / c.interval.seconds).toNat + 1 := by
    unfold cycleCount
    rw [if_pos ⟨hv, hi, hs⟩]
  rw [cycles, firstCycles, Nat.min_self, hn]

/-- The cycles of a cadence rise strictly. -/
theorem cycles_pairwise_lt (c : Cadence) : c.cycles.Pairwise (· < ·) := by
  by_cases hr : c.valid = true ∧ 0 < c.interval.seconds
  · rw [cycles, firstCycles, List.pairwise_map]
    exact List.pairwise_lt_range.imp fun {k l} hkl => by
      have : (k : Int) * c.interval.seconds < l * c.interval.seconds :=
        Int.mul_lt_mul_of_pos_right (by omega) hr.2
      show c.start.seconds + _ < c.start.seconds + _
      omega
  · rw [cycles_of_not_running hr]
    exact List.Pairwise.nil

/-- Every cycle of a cadence lies between its start and its finish. -/
theorem cycles_within (c : Cadence) {t : Moment} (ht : t ∈ c.cycles) :
    c.start ≤ t ∧ t ≤ c.finish := by
  by_cases hr : c.valid = true ∧ 0 < c.interval.seconds
  · obtain ⟨k, hk, hle⟩ := (mem_cycles hr.1 hr.2).mp ht
    have : 0 ≤ (k : Int) * c.interval.seconds := Int.mul_nonneg (by omega) (Int.le_of_lt hr.2)
    exact ⟨show c.start.seconds ≤ t.seconds by omega, hle⟩
  · rw [cycles_of_not_running hr] at ht
    cases ht

/-- Counted one interval at a time, a cadence between moments of the range has its cycles. -/
theorem steppedCycles_eq_cycles {c : Cadence} (hs : c.start.inRange = true)
    (hf : c.finish.inRange = true) : c.steppedCycles = c.cycles := by
  unfold steppedCycles
  split
  · next hr =>
    simp only [Moment.inRange, decide_eq_true_eq] at hs hf
    rw [cyclesFrom_eq_cycles hr.1 hr.2 hf.2 c.start hs.1, restart_start_self]
  · next hr => exact (cycles_of_not_running hr).symm

/-- The cycles of a cadence: none when it is disabled, its interval is not positive or it
starts after its finish; otherwise every step from its start up to its finish, rising strictly
and within its bounds. Counting them one checked step at a time, which stops at the edge of the
range, gives the same list. -/
theorem cycles_enumerate_cadence (c : Cadence) :
    ((c.valid = false ∨ c.interval.seconds ≤ 0 ∨ c.finish < c.start) → c.cycles = []) ∧
    (c.valid = true → 0 < c.interval.seconds → c.start ≤ c.finish →
      c.cycles =
        (List.range (((c.finish.seconds - c.start.seconds) / c.interval.seconds).toNat + 1)).map
          fun k : Nat => (⟨c.start.seconds + k * c.interval.seconds⟩ : Moment)) ∧
    c.cycles.Pairwise (· < ·) ∧ (∀ t ∈ c.cycles, c.start ≤ t ∧ t ≤ c.finish) ∧
    (c.start.inRange = true → c.finish.inRange = true → c.steppedCycles = c.cycles) := by
  refine ⟨fun hstop => ?_, cycles_eq_map_range, cycles_pairwise_lt c, fun _ => cycles_within c,
    steppedCycles_eq_cycles⟩
  rcases hstop with hv | hi | hf
  · exact cycles_of_not_running fun hr => absurd (hr.1.symm.trans hv) (by decide)
  · exact cycles_of_not_running fun hr => absurd hr.2 (Int.not_lt.mpr hi)
  · exact cycles_of_finish_lt hf

/-- Six-hourly cycles over the last half day of the range: the step after the last one leaves
the range, and the stepping stops there. -/
theorem steppedCycles_last_half_day :
    (active .gdas ⟨Moment.last.seconds - 43200⟩ Moment.last Span.sixHours).steppedCycles =
      [⟨Moment.last.seconds - 43200⟩, ⟨Moment.last.seconds - 21600⟩, Moment.last] := by
  rw [(cycles_enumerate_cadence
    (active .gdas ⟨Moment.last.seconds - 43200⟩ Moment.last Span.sixHours)).2.2.2.2
    (by decide) (by decide)]
  decide

end Cadence

end CycledWorkflow
