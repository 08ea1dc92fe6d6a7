import CycledWorkflow.Proofs.Calendar.Nesting
/-!
# Where the secondary cadence starts and ends

The secondary cycles fall on boundaries: the anchor hour plus whole intervals, the interval
being a day, half a day or six hours, so that each day's anchor hour is a boundary. The
resolver looks for the first cycle from the earliest moment the cycles may start, the main
start plus the delay (a negative delay counting as none) plus the lead-in.

It counts boundaries from that moment with its seconds dropped. The first cycle is therefore
the first boundary at or after the earliest moment *on the minute*: when the delay or the
lead-in carries seconds and the minute itself is a boundary, the first cycle comes before the
earliest moment (`resolveSecondary_before_earliest`).

To count, the resolver takes the anchor of the moment's day, or of the day before when the
anchor hour is still to come; on the first day of the range of moments there is no day before,
and the moment itself is taken for the anchor. The statements below hold from the first anchor
hour of the range on, which every moment of the years people write does.

Main statement: `resolveSecondary_exact`: a running secondary cadence keeps its frequency,
starts on the first boundary at or after the earliest moment on the minute and ends on the last
boundary at or before the main finish; the cadence is disabled exactly when the frequency is,
when the earliest moment is out of range, or when no boundary lies between it and the finish.
-/

namespace CycledWorkflow

namespace Moment

theorem le_iff {a b : Moment} : a ≤ b ↔ a.seconds ≤ b.seconds := Iff.rfl

theorem lt_iff {a b : Moment} : a < b ↔ a.seconds < b.seconds := Iff.rfl

theorem lt_of_not_le {a b : Moment} (h : ¬a ≤ b) : b < a := Int.not_le.mp h

theorem not_lt_of_le {a b : Moment} (h : a ≤ b) : ¬b < a := Int.not_lt.mpr h

/-- The first moment of the range begins a day. -/
theorem first_seconds_emod : first.seconds % 86400 = 0 := by
  simp only [first, ofCivil]
  omega

end Moment

namespace Alignment

/-- How long after midnight the anchor hour is, in seconds. -/
def anchorSeconds (al : Alignment) : Int := ((al.anchorHour % 24 : Nat) : Int) * 3600

/-- A boundary of the secondary cadence: the anchor hour plus a whole number of intervals. -/
def OnBoundary (al : Alignment) (interval : Span) (t : Moment) : Prop :=
  ∃ k : Int, t.seconds = al.anchorSeconds + k * interval.seconds

/-- `b` is the first boundary at or after `t`. -/
def IsFirstBoundary (al : Alignment) (interval : Span) (t b : Moment) : Prop :=
  al.OnBoundary interval b ∧ t ≤ b ∧ ∀ b', al.OnBoundary interval b' → t ≤ b' → b ≤ b'

/-- `b` is the last boundary at or before `t`. -/
def IsLastBoundary (al : Alignment) (interval : Span) (t b : Moment) : Prop :=
  al.OnBoundary interval b ∧ b ≤ t ∧ ∀ b', al.OnBoundary interval b' → b' ≤ t → b' ≤ b

/-- The earliest moment the secondary cycles may start: the main start, then the delay (a
negative delay counting as none), then the lead-in, while each sum is a moment. -/
def earliest? (al : Alignment) (start : Moment) (delay : Span) : Option Moment :=
  (start.addSpan? (if delay.seconds < 0 then Span.zero else delay)).bind (·.addSpan? al.leadIn)

theorem anchorSeconds_bounds (al : Alignment) :
    0 ≤ al.anchorSeconds ∧ al.anchorSeconds < 86400 := by
  have := Nat.mod_lt al.anchorHour (show 0 < 24 by decide)
  simp only [anchorSeconds]
  omega

/-- A moment is a boundary exactly when the interval divides its time past the anchor hour. -/
theorem onBoundary_iff {al : Alignment} {f : Frequency} {i : Span} (hf : f.interval = some i)
    {t : Moment} : al.OnBoundary i t ↔ (t.seconds - al.anchorSeconds) % i.seconds = 0 := by
  have hi := Frequency.interval_cases hf
  constructor
  · rintro ⟨k, hk⟩
    rcases hi with hi | hi | hi <;> rw [hi] at hk ⊢ <;> omega
  · intro h
    exact ⟨(t.seconds - al.anchorSeconds) / i.seconds, by
      rcases hi with hi | hi | hi <;> rw [hi] at h ⊢ <;> omega⟩

/-! ### Counting from the anchor -/

section Counting

variable {al : Alignment} {f : Frequency} {i : Span}

theorem atHour_anchor_seconds (al : Alignment) (t : Moment) :
    (t.atHour (al.anchorHour % 24)).seconds = t.seconds / 86400 * 86400 + al.anchorSeconds := by
  simp [Moment.atHour, Moment.dayNumber, Alignment.anchorSeconds]

/-- From the first anchor hour of the range on, the time past the latest boundary is the time
past the anchor hour up to whole intervals. -/
theorem secondsPastBoundary_eq (hf : f.interval = some i) {t : Moment}
    (hfirst : Moment.first.seconds + al.anchorSeconds ≤ t.seconds) (hlast : t ≤ Moment.last) :
    secondsPastBoundary t i al.anchorHour = (t.seconds - al.anchorSeconds) % i.seconds := by
  have hi := Frequency.interval_cases hf
  have hday := Moment.first_seconds_emod
  have ha := al.anchorSeconds_bounds
  have hat := atHour_anchor_seconds al t
  have hstep : max i.seconds 1 = i.seconds := by omega
  rw [Moment.le_iff] at hlast
  unfold secondsPastBoundary
  dsimp only
  rw [hstep]
  split
  · next hlt =>
    rw [Moment.lt_iff, hat] at hlt
    -- the day before holds the latest anchor, and it is a moment: the moment's day is not the
    -- first of the range
    have hprev : (t.atHour (al.anchorHour % 24)).addSpan? Span.day.neg =
        some ⟨t.seconds / 86400 * 86400 + al.anchorSeconds - 86400⟩ := by
      unfold Moment.addSpan?
      rw [if_pos]
      · simp [hat, Span.neg, Span.day]
        omega
      · simp only [Moment.inRange, decide_eq_true_eq, Moment.le_iff, hat, Span.neg, Span.day]
        omega
    rw [hprev, Option.getD_some]
    simp only [Moment.diffSeconds]
    rcases hi with hi | hi | hi <;> rw [hi] <;> omega
  · simp only [Moment.diffSeconds, hat]
    rcases hi with hi | hi | hi <;> rw [hi] <;> omega

theorem truncateSeconds_le (t : Moment) : t.truncateSeconds ≤ t := by
  simp only [Moment.le_iff, Moment.truncateSeconds, Moment.second, Moment.secondOfDay]
  omega

/-- The first boundary at or after a moment, counted from the anchor. -/
def ceilFrom (al : Alignment) (i : Span) (t : Moment) : Moment :=
  ⟨t.seconds + (al.anchorSeconds - t.seconds) % i.seconds⟩

theorem isFirstBoundary_ceilFrom (hf : f.interval = some i) (t : Moment) :
    al.IsFirstBoundary i t (al.ceilFrom i t) := by
  have hi := Frequency.interval_cases hf
  refine ⟨(onBoundary_iff hf).mpr ?_, ?_, fun b hb hle => ?_⟩
  · simp only [ceilFrom]
    rcases hi with hi | hi | hi <;> rw [hi] <;> omega
  · simp only [ceilFrom, Moment.le_iff]
    rcases hi with hi | hi | hi <;> rw [hi] <;> omega
  · obtain ⟨k, hk⟩ := hb
    simp only [ceilFrom, Moment.le_iff] at hle ⊢
    rcases hi with hi | hi | hi <;> rw [hi] at hk ⊢ <;> omega

/-- No boundary from `t` on lies at or before the finish exactly when the first one comes
after it. -/
theorem IsFirstBoundary.forall_lt_iff {t c finish : Moment} (h : al.IsFirstBoundary i t c) :
    (∀ b, al.OnBoundary i b → t ≤ b → finish < b) ↔ finish < c :=
  ⟨fun hb => hb c h.1 h.2.1, fun hlt b hb htb => Moment.lt_iff.mpr
    (Int.lt_of_lt_of_le (Moment.lt_iff.mp hlt) (Moment.le_iff.mp (h.2.2 b hb htb)))⟩

/-- The ceiling of a moment is the first boundary at or after the moment on the minute, when
that is a moment. -/
theorem ceilToBoundary_eq (hf : f.interval = some i) {t : Moment}
    (hfirst : Moment.first.seconds + al.anchorSeconds ≤ t.truncateSeconds.seconds)
    (hlast : t ≤ Moment.last) :
    ceilToBoundary t i al.anchorHour =
      if al.ceilFrom i t.truncateSeconds ≤ Moment.last then some (al.ceilFrom i t.truncateSeconds)
      else none := by
  have hi := Frequency.interval_cases hf
  have hlast' : t.truncateSeconds ≤ Moment.last :=
    Moment.le_iff.mpr (Int.le_trans (truncateSeconds_le t) hlast)
  have hfirst' := hfirst
  have ha := al.anchorSeconds_bounds
  rw [Moment.le_iff] at hlast'
  unfold ceilToBoundary
  dsimp only
  rw [secondsPastBoundary_eq hf hfirst (Moment.le_iff.mpr hlast')]
  split
  · next hr =>
    -- already on a boundary
    have hz : (al.anchorSeconds - t.truncateSeconds.seconds) % i.seconds = 0 := by
      rcases hi with hi | hi | hi <;> rw [hi] at hr ⊢ <;> omega
    have hc : al.ceilFrom i t.truncateSeconds = t.truncateSeconds := by
      simp [ceilFrom, hz]
    rw [hc, if_pos (Moment.le_iff.mpr hlast')]
  · next hr =>
    -- moved forward by what is left of the interval, a span within its bound
    have hr : (t.truncateSeconds.seconds - al.anchorSeconds) % i.seconds ≠ 0 := hr
    have hrem : (al.anchorSeconds - t.truncateSeconds.seconds) % i.seconds =
        i.seconds - (t.truncateSeconds.seconds - al.anchorSeconds) % i.seconds := by
      rcases hi with hi | hi | hi <;> rw [hi] at hr ⊢ <;> omega
    have hbound : (i.seconds - (t.truncateSeconds.seconds - al.anchorSeconds) %
        i.seconds).natAbs ≤ Span.limit := by
      simp only [Span.limit]
      rcases hi with hi | hi | hi <;> rw [hi] <;> omega
    have hc : al.ceilFrom i t.truncateSeconds = ⟨t.truncateSeconds.seconds +
        (i.seconds - (t.truncateSeconds.seconds - al.anchorSeconds) % i.seconds)⟩ := by
      simp [ceilFrom, hrem]
    have hge : Moment.first ≤ al.ceilFrom i t.truncateSeconds := by
      rw [hc, Moment.le_iff]
      dsimp only
      rcases hi with hi | hi | hi <;> rw [hi] <;> omega
    unfold Span.ofSeconds? Moment.addSpan?
    rw [dif_pos hbound, Option.bind_some, ← hc]
    by_cases hl : al.ceilFrom i t.truncateSeconds ≤ Moment.last
    · simp [Moment.inRange, hge, hl]
    · simp [Moment.inRange, hl]

/-- The last boundary at or before a moment, counted from the anchor. -/
def floorFrom (al : Alignment) (i : Span) (t : Moment) : Moment :=
  ⟨t.seconds - (t.seconds - al.anchorSeconds) % i.seconds⟩

theorem isLastBoundary_floorFrom (hf : f.interval = some i) (t : Moment) :
    al.IsLastBoundary i t (al.floorFrom i t) := by
  have hi := Frequency.interval_cases hf
  refine ⟨(onBoundary_iff hf).mpr ?_, ?_, fun b hb hle => ?_⟩
  · simp only [floorFrom]
    rcases hi with hi | hi | hi <;> rw [hi] <;> omega
  · simp only [floorFrom, Moment.le_iff]
    rcases hi with hi | hi | hi <;> rw [hi] <;> omega
  · obtain ⟨k, hk⟩ := hb
    simp only [floorFrom, Moment.le_iff] at hle ⊢
    rcases hi with hi | hi | hi <;> rw [hi] at hk ⊢ <;> omega

/-- From the first anchor hour of the range on, the floor of a moment is the last boundary at
or before it. -/
theorem floorToBoundary_eq (hf : f.interval = some i) {t : Moment}
    (hfirst : Moment.first.seconds + al.anchorSeconds ≤ t.seconds) (hlast : t ≤ Moment.last) :
    floorToBoundary t i al.anchorHour = al.floorFrom i t := by
  unfold floorToBoundary
  rw [secondsPastBoundary_eq hf hfirst hlast]
  rfl

end Counting

end Alignment

/-! ### The resolved cadence -/

theorem Moment.le_last_of_addSpan? {t u : Moment} {d : Span} (h : t.addSpan? d = some u) :
    u ≤ Moment.last := by
  unfold Moment.addSpan? at h
  dsimp only at h
  split at h
  · next hr =>
    obtain rfl := Option.some.inj h
    simp only [Moment.inRange, decide_eq_true_eq] at hr
    exact hr.2
  · cases h

theorem Alignment.earliest?_le_last {al : Alignment} {start t : Moment} {delay : Span}
    (h : al.earliest? start delay = some t) : t ≤ Moment.last := by
  obtain ⟨u, -, hu⟩ := Option.bind_eq_some_iff.mp h
  exact Moment.le_last_of_addSpan? hu

/-- A disabled cadence has no cycles. -/
theorem Cadence.cycles_disabled (id : CadenceId) (t : Moment) (i : Span) :
    (Cadence.disabled id t i).cycles = [] := by
  simp [Cadence.cycles, Cadence.firstCycles, Cadence.cycleCount, Cadence.disabled]

section Resolve

variable {start finish : Moment} {al : Alignment} {delay : Span} {freq : Frequency} {i : Span}

/-- With a running frequency, the resolver looks for the first cycle from the earliest moment. -/
theorem resolveSecondary_of_interval (hI : freq.interval = some i) :
    resolveSecondary start finish al delay freq =
      match (al.earliest? start delay).bind (ceilToBoundary · i al.anchorHour) with
      | some s =>
        if s ≤ finish then
          ⟨freq, Cadence.active .gfs s (floorToBoundary finish i al.anchorHour) i⟩
        else ⟨.disabled, Cadence.disabled .gfs finish i⟩
      | none => ⟨.disabled, Cadence.disabled .gfs finish i⟩ := by
  simp only [resolveSecondary, hI]
  rfl

/-- With a running frequency and an earliest moment from the first anchor hour on, the cadence
runs from the first boundary of the earliest minute to the last boundary of the finish, unless
that first boundary comes after the finish. -/
theorem resolveSecondary_of_earliest (hI : freq.interval = some i) {t : Moment}
    (hE : al.earliest? start delay = some t)
    (hT : Moment.first.seconds + al.anchorSeconds ≤ t.truncateSeconds.seconds)
    (hfinish : finish ≤ Moment.last) :
    resolveSecondary start finish al delay freq =
      if al.ceilFrom i t.truncateSeconds ≤ finish then
        ⟨freq, Cadence.active .gfs (al.ceilFrom i t.truncateSeconds) (al.floorFrom i finish) i⟩
      else ⟨.disabled, Cadence.disabled .gfs finish i⟩ := by
  rw [resolveSecondary_of_interval hI, hE, Option.bind_some,
    Alignment.ceilToBoundary_eq hI hT (Alignment.earliest?_le_last hE)]
  by_cases hcf : al.ceilFrom i t.truncateSeconds ≤ finish
  · -- the finish lies past the earliest minute, so past the first anchor hour too
    have hc : t.truncateSeconds ≤ al.ceilFrom i t.truncateSeconds :=
      (Alignment.isFirstBoundary_ceilFrom hI _).2.1
    have hF : Moment.first.seconds + al.anchorSeconds ≤ finish.seconds :=
      Int.le_trans hT (Int.le_trans (Moment.le_iff.mp hc) (Moment.le_iff.mp hcf))
    rw [if_pos (Moment.le_iff.mpr (Int.le_trans (Moment.le_iff.mp hcf)
      (Moment.le_iff.mp hfinish)))]
    dsimp only
    rw [if_pos hcf, if_pos hcf, Alignment.floorToBoundary_eq hI hF hfinish]
  · rw [if_neg hcf]
    by_cases hcl : al.ceilFrom i t.truncateSeconds ≤ Moment.last
    · rw [if_pos hcl]
      dsimp only
      rw [if_neg hcf]
    · rw [if_neg hcl]

end Resolve

theorem Frequency.interval_eq_none_iff {f : Frequency} : f.interval = none ↔ f = .disabled := by
  cases f <;> simp [Frequency.interval]

/-- **The secondary cadence is exact**, up to the minute of its earliest moment. When it runs,
it keeps its frequency and runs from the first boundary at or after the earliest moment on the
minute to the last boundary at or before the main finish. It is disabled, with no cycles,
exactly when the frequency is, when the earliest moment is out of range, or when no boundary
lies between the earliest moment on the minute and the finish.

It holds for a finish within the range of moments and an earliest moment from the first anchor
hour of the range on. -/
theorem resolveSecondary_exact (start finish : Moment) (al : Alignment) (delay : Span)
    (freq : Frequency) (hfinish : finish ≤ Moment.last)
    (hedge : ∀ t, al.earliest? start delay = some t →
      Moment.first.seconds + al.anchorSeconds ≤ t.truncateSeconds.seconds) :
    let r := resolveSecondary start finish al delay freq
    (r.cadence.valid = true → ∃ i t, freq.interval = some i ∧ al.earliest? start delay = some t ∧
        r.frequency = freq ∧ r.cadence.interval = i ∧
        al.IsFirstBoundary i t.truncateSeconds r.cadence.start ∧
        al.IsLastBoundary i finish r.cadence.finish ∧
        r.cadence.start ≤ r.cadence.finish ∧ r.cadence.finish ≤ finish) ∧
    (r.cadence.valid = false ↔ freq = .disabled ∨ al.earliest? start delay = none ∨
        ∃ i t, freq.interval = some i ∧ al.earliest? start delay = some t ∧
          ∀ b, al.OnBoundary i b → t.truncateSeconds ≤ b → finish < b) ∧
    (r.cadence.valid = false → r.frequency = .disabled ∧ r.cadence.cycles = []) := by
  intro r
  cases hI : freq.interval with
  | none =>
    have hr : r = ⟨.disabled, Cadence.disabled .gfs finish Span.day⟩ := by
      simp only [r, resolveSecondary, hI]
    rw [hr]
    exact ⟨by simp [Cadence.disabled],
      by simp [Cadence.disabled, ← Frequency.interval_eq_none_iff, hI],
      fun _ => ⟨rfl, Cadence.cycles_disabled _ _ _⟩⟩
  | some i =>
    cases hE : al.earliest? start delay with
    | none =>
      have hr : r = ⟨.disabled, Cadence.disabled .gfs finish i⟩ := by
        simp only [r, resolveSecondary_of_interval hI, hE, Option.bind_none]
      rw [hr]
      exact ⟨by simp [Cadence.disabled], by simp [Cadence.disabled],
        fun _ => ⟨rfl, Cadence.cycles_disabled _ _ _⟩⟩
    | some t =>
      have hr : r = _ := resolveSecondary_of_earliest hI hE (hedge t hE) hfinish
      have hfirst : al.IsFirstBoundary i t.truncateSeconds (al.ceilFrom i t.truncateSeconds) :=
        Alignment.isFirstBoundary_ceilFrom hI _
      have hnone : freq ≠ .disabled := by
        rintro rfl
        cases hI
      by_cases hcf : al.ceilFrom i t.truncateSeconds ≤ finish
      · -- the cadence runs; its first boundary is one between the earliest minute and the finish
        rw [if_pos hcf] at hr
        have hlast : al.IsLastBoundary i finish (al.floorFrom i finish) :=
          Alignment.isLastBoundary_floorFrom hI _
        refine ⟨fun _ => ⟨i, t, rfl, rfl, by rw [hr], by rw [hr]; rfl, ?_, ?_, ?_, ?_⟩, ?_,
          fun h => by simp [r, hr, Cadence.active] at h⟩
        · rw [hr]; exact hfirst
        · rw [hr]; exact hlast
        · rw [hr]; exact hlast.2.2 _ hfirst.1 hcf
        · rw [hr]; exact hlast.2.1
        · simp only [r, hr, Cadence.active, Bool.true_eq_false, false_iff]
          rintro (h | h | ⟨i', t', hi', ht', hb⟩)
          · exact hnone h
          · cases h
          · obtain rfl : i = i' := Option.some.inj hi'
            obtain rfl : t = t' := Option.some.inj ht'
            exact Moment.not_lt_of_le hcf (hfirst.forall_lt_iff.mp hb)
      · -- every boundary from the earliest minute on comes after the finish
        rw [if_neg hcf] at hr
        refine ⟨fun h => by simp [r, hr, Cadence.disabled] at h, ?_,
          fun _ => by rw [hr]; exact ⟨rfl, Cadence.cycles_disabled _ _ _⟩⟩
        simp only [r, hr, Cadence.disabled, true_iff]
        exact Or.inr (Or.inr ⟨i, t, rfl, rfl,
          hfirst.forall_lt_iff.mpr (Moment.lt_of_not_le hcf)⟩)

/-- Thirty seconds of delay after a main start on the anchor hour: the range conditions hold,
and the cadence starts on the first boundary at or after the earliest minute. -/
theorem resolveSecondary_exact_thirty_seconds :
    let start := Moment.ofCivil 2021 12 20 0 0 0
    let finish := Moment.ofCivil 2021 12 22 0 0 0
    let delay : Span := { seconds := 30 }
    (finish ≤ Moment.last ∧ ∀ t, Alignment.synoptic.earliest? start delay = some t →
        Moment.first.seconds + Alignment.synoptic.anchorSeconds ≤ t.truncateSeconds.seconds) ∧
    Alignment.synoptic.IsFirstBoundary Span.sixHours (Moment.ofCivil 2021 12 20 6 0 0)
      (resolveSecondary start finish .synoptic delay .fourTimesDaily).cadence.start := by
  intro start finish delay
  have hE : Alignment.synoptic.earliest? start delay = some (Moment.ofCivil 2021 12 20 6 0 30) := by
    decide
  have hedge : ∀ t, Alignment.synoptic.earliest? start delay = some t →
      Moment.first.seconds + Alignment.synoptic.anchorSeconds ≤ t.truncateSeconds.seconds := by
    intro t ht
    obtain rfl := Option.some.inj (hE.symm.trans ht)
    decide
  have hfin : finish ≤ Moment.last := by decide
  obtain ⟨i, t, hi, ht, -, -, hfirst, -⟩ :=
    (resolveSecondary_exact start finish .synoptic delay .fourTimesDaily hfin hedge).1 (by decide)
  obtain rfl : Span.sixHours = i := Option.some.inj hi
  obtain rfl := Option.some.inj (hE.symm.trans ht)
  have hminute :
      (Moment.ofCivil 2021 12 20 6 0 30).truncateSeconds = Moment.ofCivil 2021 12 20 6 0 0 := by
    decide
  rw [hminute] at hfirst
  exact ⟨⟨hfin, hedge⟩, hfirst⟩

/-- The first cycle can come before the earliest moment: thirty seconds of delay after a main
start on the anchor hour leave the first cycle on the boundary half a minute before it. -/
theorem resolveSecondary_before_earliest :
    let start := Moment.ofCivil 2021 12 20 0 0 0
    let delay : Span := { seconds := 30 }
    let r :=
      resolveSecondary start (Moment.ofCivil 2021 12 22 0 0 0) .synoptic delay .fourTimesDaily
    r.cadence.valid = true ∧
      Alignment.synoptic.earliest? start delay = some (Moment.ofCivil 2021 12 20 6 0 30) ∧
      r.cadence.start = Moment.ofCivil 2021 12 20 6 0 0 := by
  decide

end CycledWorkflow
