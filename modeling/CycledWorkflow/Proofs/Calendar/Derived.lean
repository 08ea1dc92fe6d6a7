import CycledWorkflow.Proofs.Calendar.Nesting
import CycledWorkflow.Proofs.Time.Stamp
/-!
# The derived configuration of a calendar

Deriving a calendar writes keys over the base scope. Cycled and replay experiments get the
frequency in force (`gfs_cyc`), the secondary interval (`INTERVAL_GFS`), the secondary window
(`SDATE_GFS`, `EDATE_GFS`) when the secondary cadence runs, and the forecast length of each
synoptic hour (`FHMAX_GFS_hh`); the other modes get their interval (`INTERVAL`); every mode gets
its primary group (`CDUMP`). Every other key keeps its value.

The derived configuration agrees with the cadences (`Calendar.Consistent`). Every laid-out
cadence runs, steps forward and has a first cycle, and no two share an id. The frequency
written is zero exactly when the secondary cadence is disabled, exactly when it is not laid out.
A running secondary window is written as timestamps that read back as its first and last cycle:
both lie on whole hours inside the main window, whose ends are timestamps themselves
(`parseStamp_ymdh_of_between`). A disabled window writes nothing, so a window given in the
input stays. The longest forecast reads the same on the derived and the input base.

Main statement: `derive_consistent`.
-/

namespace CycledWorkflow

namespace Config.Scope

/-- Entries written one after another: a key reads its last written value, else its value
before. -/
theorem get?_extend (s : Scope) (es : List (String × Value)) (k : String) :
    (s.extend es).get? k = (es.reverse.lookup k).or (s.get? k) := by
  induction es generalizing s with
  | nil => rfl
  | cons e es ih =>
    obtain ⟨k', v⟩ := e
    show ((s.insert k' v).extend es).get? k = _
    rw [ih, List.reverse_cons, List.lookup_append, Option.or_assoc]
    congr 1
    -- the entry written first is found unless a later one has the key
    by_cases hk : k = k'
    · subst hk
      simp [get?_insert]
    · simp [get?_insert_of_ne _ _ _ _ hk, List.lookup_cons, beq_eq_false_iff_ne.mpr hk]

/-- The integer reading of a key depends on its value only. -/
theorem int?_congr {s s' : Scope} {k : String} (h : s.get? k = s'.get? k) :
    s.int? k = s'.int? k := by
  unfold int?
  rw [h]

/-- A key read with a default depends on its value only. -/
theorem intOr_congr {s s' : Scope} {k : String} (h : s.get? k = s'.get? k) (d : Int) :
    s.intOr k d = s'.intOr k d := by
  unfold intOr
  rw [int?_congr h]

/-- A key that holds a whole number reads as that number. -/
theorem int?_of_get? {s : Scope} {k : String} {i : Int} (h : s.get? k = some (.int i)) :
    s.int? k = .ok (some i) := by
  unfold int?
  rw [h]
  rfl

/-- A key read with a default is its integer reading, else the default. -/
theorem intOr_eq_ok_iff {s : Scope} {k : String} {d v : Int} :
    s.intOr k d = .ok v ↔ ∃ x, s.int? k = .ok x ∧ v = x.getD d := by
  unfold intOr
  cases s.int? k with
  | error err => simp [bind, Except.bind]
  | ok x =>
    simp only [bind, Except.bind, pure, Except.pure, Except.ok.injEq]
    exact ⟨fun h => ⟨x, rfl, h.symm⟩, fun ⟨y, hy, hv⟩ => by rw [hy, hv]⟩

/-- A key that holds a timestamp reads as its moment. -/
theorem timestamp?_of_get? {s : Scope} {k text : String} {t : Moment}
    (h : s.get? k = some (.text text)) (ht : Moment.parseStamp text = some t) :
    s.timestamp? k = .ok (some t) := by
  unfold timestamp?
  rw [h]
  simp only [Value.display_text, ht]
  rfl

/-- A timestamp read from a key is the moment of a text. -/
theorem exists_parseStamp_of_timestamp? {s : Scope} {k : String} {t : Moment}
    (h : s.timestamp? k = .ok (some t)) : ∃ text, Moment.parseStamp text = some t := by
  unfold timestamp? at h
  split at h
  · cases h
  · next v _ =>
    split at h
    · next t' ht => exact ⟨_, ht.trans (congrArg some (Option.some.inj (Except.ok.inj h)))⟩
    · cases h

end Config.Scope

/-! ### The window of a checked configuration -/

/-- A checked window runs from one timestamp to a later or equal one. -/
theorem Config.windowOf_spec {base : Config.Scope} {s e : Moment}
    (h : Config.windowOf base = .ok (s, e)) :
    (∃ text, Moment.parseStamp text = some s) ∧ (∃ text, Moment.parseStamp text = some e) ∧
      s ≤ e := by
  unfold Config.windowOf at h
  obtain ⟨o, ho, h⟩ := exists_ok_of_bind_ok h
  split at h
  · next sdate =>
    obtain ⟨o', ho', h⟩ := exists_ok_of_bind_ok h
    split at h
    · next edate =>
      split at h
      · cases h
      · next hle =>
        obtain ⟨rfl, rfl⟩ := Prod.mk.inj (Except.ok.inj h)
        have hle : ¬edate.seconds < sdate.seconds := hle
        exact ⟨Config.Scope.exists_parseStamp_of_timestamp? ho,
          Config.Scope.exists_parseStamp_of_timestamp? ho', show sdate.seconds ≤ edate.seconds by
            omega⟩
    · cases h
  · cases h

/-- A checked experiment runs from one timestamp to a later or equal one. -/
theorem Experiment.window_of_ofDocument {doc : Config.Document} {e : Experiment}
    (h : Experiment.ofDocument doc = .ok e) :
    (∃ text, Moment.parseStamp text = some e.sdate) ∧
      (∃ text, Moment.parseStamp text = some e.edate) ∧ e.sdate ≤ e.edate := by
  unfold Experiment.ofDocument at h
  obtain ⟨mode, -, h⟩ := exists_ok_of_bind_ok h
  obtain ⟨⟨s, t⟩, hw, h⟩ := exists_ok_of_bind_ok h
  obtain ⟨-, -, h⟩ := exists_ok_of_bind_ok h
  obtain rfl := Except.ok.inj h
  exact Config.windowOf_spec hw

/-! ### Loops over the synoptic hours -/

section Loop

variable {α β γ ε : Type}

/-- A loop that reads a value for every element and appends an entry for it ends with one entry
per element, each of the value read for it. -/
theorem forIn_append_entries [DecidableEq α] [Inhabited β] (read : α → Except ε β)
    (entry : α → β → γ) :
    ∀ (as : List α) (init : List γ) {out : List γ},
      forIn as init (fun a s => read a >>= fun x => pure (ForInStep.yield (s ++ [entry a x]))) =
        .ok out →
      ∃ v : α → β, (∀ a ∈ as, read a = .ok (v a)) ∧ out = init ++ as.map fun a => entry a (v a)
  | [], init, out, h => by
    simp only [List.forIn_nil, pure, Except.pure, Except.ok.injEq] at h
    exact ⟨fun _ => default, by simp, by simp [h]⟩
  | a :: as, init, out, h => by
    rw [List.forIn_cons] at h
    obtain ⟨r, hr, h⟩ := exists_ok_of_bind_ok h
    obtain ⟨x, hx, hr⟩ := exists_ok_of_bind_ok hr
    obtain rfl := Except.ok.inj hr
    obtain ⟨v, hv, rfl⟩ := forIn_append_entries read entry as _ h
    -- the first element's value is the one read for it, wherever it comes again
    have hva : ∀ b ∈ as, b = a → v b = x := fun b hb hba => by
      subst hba
      exact Except.ok.inj ((hv b hb).symm.trans hx)
    refine ⟨fun b => if b = a then x else v b, ?_, ?_⟩
    · intro b hb
      by_cases hba : b = a
      · simp [hba, hx]
      · simp only [hba, if_false]
        exact hv b ((List.mem_cons.mp hb).resolve_left hba)
    · simp only [List.map_cons, List.append_assoc, List.singleton_append, if_true]
      congr 2
      refine List.map_congr_left fun b hb => ?_
      by_cases hba : b = a
      · have hvb := hva b hb hba
        subst hba
        simp [hvb]
      · simp [hba]

/-- Loops whose bodies agree on the elements run alike. -/
theorem forIn_congr_of_mem {f g : α → β → Except ε (ForInStep β)} :
    ∀ (as : List α) (b : β), (∀ a ∈ as, ∀ b, f a b = g a b) → forIn as b f = forIn as b g
  | [], _, _ => rfl
  | a :: as, b, h => by
    rw [List.forIn_cons, List.forIn_cons, h a List.mem_cons_self b]
    congr 1
    funext r
    cases r with
    | done b' => rfl
    | yield b' =>
      exact forIn_congr_of_mem as b' fun a' ha' => h a' (List.mem_cons_of_mem a ha')

end Loop

/-- The longest forecast depends on the forecast lengths the two bases read: the same length of
00Z (else 120 hours), and the same lengths of the synoptic hours with it as fallback. -/
theorem fhmaxGfsLongest_congr {s s' : Config.Scope}
    (h0 : s.intOr "FHMAX_GFS_00" defaultFhmaxGfs = s'.intOr "FHMAX_GFS_00" defaultFhmaxGfs)
    (h : ∀ fb, s.intOr "FHMAX_GFS_00" defaultFhmaxGfs = .ok fb → ∀ hh ∈ ["00", "06", "12", "18"],
      s.intOr ("FHMAX_GFS_" ++ hh) fb = s'.intOr ("FHMAX_GFS_" ++ hh) fb) :
    fhmaxGfsLongest s = fhmaxGfsLongest s' := by
  unfold fhmaxGfsLongest
  rw [← h0]
  cases h00 : s.intOr "FHMAX_GFS_00" defaultFhmaxGfs with
  | error err => rfl
  | ok fb =>
    simp only [bind, Except.bind]
    -- after the fallback the two loops read the same lengths
    congr 1
    exact forIn_congr_of_mem _ fb fun hh hmem b => by rw [h fb h00 hh hmem]

/-! ### Running cadences -/

/-- A cadence that runs: valid, stepping forward and starting no later than it ends, so with a
first cycle. -/
structure Cadence.Runs (c : Cadence) : Prop where
  valid : c.valid = true
  interval_pos : 0 < c.interval.seconds
  start_le : c.start ≤ c.finish
  cycles_ne_nil : c.cycles ≠ []

/-- A running cadence that steps forward has a cycle exactly when it starts no later than it
ends. -/
theorem Cadence.cycles_ne_nil_iff {c : Cadence} (hv : c.valid = true)
    (hi : 0 < c.interval.seconds) : c.cycles ≠ [] ↔ c.start ≤ c.finish := by
  rw [← List.length_pos_iff, cycles_length, lt_cycleCount_iff hv hi 0]
  show _ ↔ c.start.seconds ≤ c.finish.seconds
  simp

theorem Cadence.Runs.of_le {c : Cadence} (hv : c.valid = true) (hi : 0 < c.interval.seconds)
    (hle : c.start ≤ c.finish) : c.Runs :=
  ⟨hv, hi, hle, (Cadence.cycles_ne_nil_iff hv hi).mpr hle⟩

theorem Cadence.runs_active {id : CadenceId} {s f : Moment} {i : Span} (hi : 0 < i.seconds)
    (hle : s ≤ f) : (Cadence.active id s f i).Runs :=
  .of_le rfl hi hle

/-- A frequency counts no cycles a day exactly when it has no interval. -/
theorem Frequency.perDay_eq_zero_iff {f : Frequency} : f.perDay = 0 ↔ f.interval = none := by
  cases f <;> simp [Frequency.perDay, Frequency.interval]

/-- The resolved frequency counts no cycles exactly when the resolved cadence is disabled. -/
theorem resolveSecondary_perDay_eq_zero_iff (start finish : Moment) (al : Alignment)
    (delay : Span) (freq : Frequency) :
    (resolveSecondary start finish al delay freq).frequency.perDay = 0 ↔
      (resolveSecondary start finish al delay freq).cadence.valid = false := by
  unfold resolveSecondary
  cases hf : freq.interval with
  | none => simp [Frequency.perDay, Cadence.disabled]
  | some i =>
    -- a frequency with an interval counts cycles, and runs only when its first cycle fits
    have hp : freq.perDay ≠ 0 := fun h => by simp [Frequency.perDay_eq_zero_iff.mp h] at hf
    dsimp only
    split
    · split
      · simp [hp, Cadence.active]
      · simp [Cadence.disabled, Frequency.perDay]
    · simp [Cadence.disabled, Frequency.perDay]

/-- A running synoptic secondary cadence starts after the main start, ends no later than the
main finish and no earlier than it starts, both on whole hours. -/
theorem resolveSecondary_window {start finish : Moment} {delay : Span} {freq : Frequency}
    {c : Cadence} (hc : (resolveSecondary start finish .synoptic delay freq).cadence = c)
    (hv : c.valid = true) :
    start ≤ c.start ∧ c.start ≤ c.finish ∧ c.finish ≤ finish ∧ c.start.seconds % 3600 = 0 ∧
      c.finish.seconds % 3600 = 0 := by
  obtain ⟨i, hfi, -, hsi, hlt, hle, hfin⟩ := resolveSecondary_synoptic hc hv
  show start.seconds ≤ c.start.seconds ∧ c.start.seconds ≤ c.finish.seconds ∧
    c.finish.seconds ≤ finish.seconds ∧ _
  -- each interval is a whole number of hours
  rcases Frequency.interval_cases hfi with hi | hi | hi <;> rw [hi] at hsi hfin <;> omega

namespace Calendar

/-- The keys a resolved secondary cadence `r` derives, with `len hh` the forecast length of the
synoptic hour `hh`: the frequency in force, the interval, the window when the cadence runs, and
the four forecast lengths. -/
def secondaryList (r : Secondary) (len : String → Int) : List (String × Config.Value) :=
  [("gfs_cyc", .int r.frequency.perDay), ("INTERVAL_GFS", .text r.cadence.interval.hms)] ++
    (if r.cadence.valid then
      [("SDATE_GFS", .text r.cadence.start.ymdh), ("EDATE_GFS", .text r.cadence.finish.ymdh)]
    else []) ++
    ["00", "06", "12", "18"].map fun hh => ("FHMAX_GFS_" ++ hh, .int (len hh))

/-- The keys derived from a resolved secondary cadence, with the forecast length of each
synoptic hour read with the length of 00Z (else 120 hours) as fallback. -/
theorem secondaryEntries_spec {base : Config.Scope} {r : Secondary}
    {out : List (String × Config.Value)} (h : secondaryEntries base r = .ok out) :
    ∃ (fb : Int) (v : String → Int), base.intOr "FHMAX_GFS_00" defaultFhmaxGfs = .ok fb ∧
      (∀ hh ∈ ["00", "06", "12", "18"], base.intOr ("FHMAX_GFS_" ++ hh) fb = .ok (v hh)) ∧
      out = secondaryList r v := by
  unfold secondaryEntries at h
  dsimp only at h
  -- the window entries are added or not; the loop after them is the same
  split at h
  all_goals
    obtain ⟨fb, hfb, h⟩ := exists_ok_of_bind_ok h
    obtain ⟨out', hloop, h⟩ := exists_ok_of_bind_ok h
    obtain rfl := Except.ok.inj h
    obtain ⟨v, hv, rfl⟩ := forIn_append_entries (fun hh => base.intOr ("FHMAX_GFS_" ++ hh) fb)
      (fun hh x => ("FHMAX_GFS_" ++ hh, Config.Value.int x)) _ _ hloop
    exact ⟨fb, v, hfb, hv, by simp_all [secondaryList]⟩

/-- What the base `derived` written over `base` says of a secondary cadence `sec` beside the
cadences `cads` laid out. -/
structure SecondaryWritten (base derived : Config.Scope) (cads : List Cadence) (sec : Secondary) :
    Prop where
  /-- The frequency in force is written as `gfs_cyc`, ... -/
  gfsCyc : derived.int? "gfs_cyc" = .ok (some sec.frequency.perDay)
  /-- ... which is zero exactly when the secondary cadence is disabled, ... -/
  perDay_eq_zero_iff : sec.frequency.perDay = 0 ↔ sec.cadence.valid = false
  /-- ... exactly when no long-forecast cadence is laid out. -/
  disabled_iff : sec.cadence.valid = false ↔ CadenceId.gfs ∉ cads.map Cadence.id
  /-- A running window is written as timestamps of its first and last cycle. -/
  window : sec.cadence.valid = true →
    derived.timestamp? "SDATE_GFS" = .ok (some sec.cadence.start) ∧
      derived.timestamp? "EDATE_GFS" = .ok (some sec.cadence.finish)
  /-- A disabled one writes no window: a window of the input stays. -/
  windowKept : sec.cadence.valid = false →
    derived.get? "SDATE_GFS" = base.get? "SDATE_GFS" ∧
      derived.get? "EDATE_GFS" = base.get? "EDATE_GFS"
  /-- Without a window in the input, the window is absent exactly when the cadence is
  disabled. -/
  windowAbsent : base.get? "SDATE_GFS" = none → base.get? "EDATE_GFS" = none →
    ((derived.get? "SDATE_GFS" = none ∧ derived.get? "EDATE_GFS" = none) ↔
      sec.cadence.valid = false)
  /-- The interval is written as hours, minutes and seconds. -/
  interval : derived.get? "INTERVAL_GFS" = some (.text sec.cadence.interval.hms)
  /-- Each synoptic hour's forecast length is the input's, else that of 00Z, else 120 hours. -/
  fhmax : ∃ x00, base.int? "FHMAX_GFS_00" = .ok x00 ∧ ∀ hh ∈ ["00", "06", "12", "18"],
    ∃ x, base.int? ("FHMAX_GFS_" ++ hh) = .ok x ∧
      derived.get? ("FHMAX_GFS_" ++ hh) = some (.int (x.getD (x00.getD defaultFhmaxGfs)))
  /-- Every other key keeps its value. -/
  kept : ∀ k, k ∉ ["gfs_cyc", "INTERVAL_GFS", "SDATE_GFS", "EDATE_GFS", "FHMAX_GFS_00",
    "FHMAX_GFS_06", "FHMAX_GFS_12", "FHMAX_GFS_18", "CDUMP"] → derived.get? k = base.get? k

section Written

variable {base : Config.Scope} {cads : List Cadence} {r : Secondary} {fb : Int}
  {v : String → Int}

/-- Each synoptic hour's forecast length reads back from the keys written. -/
theorem get?_extend_secondaryList_fhmax {hh : String} (hmem : hh ∈ ["00", "06", "12", "18"]) :
    (base.extend (secondaryList r v ++ [("CDUMP", .text "gdas")])).get? ("FHMAX_GFS_" ++ hh) =
      some (.int (v hh)) := by
  simp only [List.mem_cons, List.mem_nil_iff, or_false] at hmem
  rcases hmem with rfl | rfl | rfl | rfl <;> cases hval : r.cadence.valid <;>
    simp [Config.Scope.get?_extend, secondaryList, hval, List.lookup_cons]

/-- The keys of a secondary cadence and the primary group written over a base say what
`SecondaryWritten` says, given the facts of the cadence it passes on. -/
theorem secondaryWritten_extend
    (hfb : base.intOr "FHMAX_GFS_00" defaultFhmaxGfs = .ok fb)
    (hv : ∀ hh ∈ ["00", "06", "12", "18"], base.intOr ("FHMAX_GFS_" ++ hh) fb = .ok (v hh))
    (hzero : r.frequency.perDay = 0 ↔ r.cadence.valid = false)
    (hgfs : r.cadence.valid = false ↔ CadenceId.gfs ∉ cads.map Cadence.id)
    (hstamp : r.cadence.valid = true →
      Moment.parseStamp r.cadence.start.ymdh = some r.cadence.start ∧
        Moment.parseStamp r.cadence.finish.ymdh = some r.cadence.finish) :
    SecondaryWritten base (base.extend (secondaryList r v ++ [("CDUMP", .text "gdas")])) cads r := by
  -- every key reads its last entry, else the base
  refine ⟨?_, hzero, hgfs, fun hval => ?_, fun hval => ?_, fun hs he => ?_, ?_, ?_, fun k hk => ?_⟩
  · refine Config.Scope.int?_of_get? ?_
    cases hval : r.cadence.valid <;>
      simp [Config.Scope.get?_extend, secondaryList, hval, List.lookup_cons]
  · obtain ⟨hs, he⟩ := hstamp hval
    refine ⟨Config.Scope.timestamp?_of_get? ?_ hs, Config.Scope.timestamp?_of_get? ?_ he⟩ <;>
      simp [Config.Scope.get?_extend, secondaryList, hval, List.lookup_cons]
  · simp [Config.Scope.get?_extend, secondaryList, hval, List.lookup_cons]
  · cases hval : r.cadence.valid <;>
      simp [Config.Scope.get?_extend, secondaryList, hval, List.lookup_cons, hs, he]
  · cases hval : r.cadence.valid <;>
      simp [Config.Scope.get?_extend, secondaryList, hval, List.lookup_cons]
  · -- the fallback is the length of 00Z, else 120 hours
    obtain ⟨x00, hx00, rfl⟩ := Config.Scope.intOr_eq_ok_iff.mp hfb
    refine ⟨x00, hx00, fun hh hmem => ?_⟩
    obtain ⟨x, hx, hvx⟩ := Config.Scope.intOr_eq_ok_iff.mp (hv hh hmem)
    exact ⟨x, hx, hvx ▸ get?_extend_secondaryList_fhmax hmem⟩
  · have hnot : k ∉ (secondaryList r v ++ [("CDUMP", Config.Value.text "gdas")]).map Prod.fst := by
      cases hval : r.cadence.valid <;> simp_all [secondaryList]
    exact Config.Scope.get?_extend_of_not_mem _ hnot

/-- Writing the keys of a secondary cadence leaves the longest forecast as it was: the derived
base holds each length the input gives, with the same fallback. -/
theorem fhmaxGfsLongest_extend
    (hfb : base.intOr "FHMAX_GFS_00" defaultFhmaxGfs = .ok fb)
    (hv : ∀ hh ∈ ["00", "06", "12", "18"], base.intOr ("FHMAX_GFS_" ++ hh) fb = .ok (v hh)) :
    fhmaxGfsLongest (base.extend (secondaryList r v ++ [("CDUMP", .text "gdas")])) =
      fhmaxGfsLongest base := by
  -- the derived base reads back each length written, whatever the fallback
  have hread : ∀ hh ∈ ["00", "06", "12", "18"], ∀ d,
      (base.extend (secondaryList r v ++ [("CDUMP", .text "gdas")])).intOr
        ("FHMAX_GFS_" ++ hh) d = .ok (v hh) := by
    intro hh hmem d
    exact Config.Scope.intOr_eq_ok_iff.mpr
      ⟨_, Config.Scope.int?_of_get? (get?_extend_secondaryList_fhmax hmem), rfl⟩
  -- the length of 00Z read with its own reading as fallback is that reading
  have h00 : v "00" = fb := by
    obtain ⟨x00, hx00, rfl⟩ := Config.Scope.intOr_eq_ok_iff.mp hfb
    obtain ⟨x, hx, hvx⟩ := Config.Scope.intOr_eq_ok_iff.mp (hv "00" (by simp))
    obtain rfl : x = x00 := Except.ok.inj (hx.symm.trans hx00)
    cases x <;> simp [hvx]
  have hd00 := hread "00" (by simp) defaultFhmaxGfs
  simp only [String.reduceAppend] at hd00
  apply fhmaxGfsLongest_congr
  · rw [hd00, hfb, h00]
  · intro fb' hfb' hh hmem
    obtain rfl : fb' = fb := (Except.ok.inj (hfb'.symm.trans hd00)).trans h00
    rw [hread hh hmem, hv hh hmem]

end Written

/-! ### Derived calendars -/

/-- The base of a derived calendar is the experiment's base with the derived keys and the
primary group written over it. -/
theorem base_of_derive {e : Experiment} {cal : Calendar} (h : derive e = .ok cal) :
    ∃ extra, layout e = .ok (cal.cadences, cal.secondary, extra, cal.primaryGroup) ∧
      cal.base = e.base.extend (extra ++ [("CDUMP", .text cal.primaryGroup.label)]) := by
  obtain ⟨extra, hl, he⟩ := derive_ok h
  exact ⟨extra, hl, by rw [base, he]; rfl⟩

/-- Every cadence a checked experiment lays out runs, and no two share an id. -/
theorem layout_runs {doc : Config.Document} {e : Experiment} {cads : List Cadence}
    {sec : Option Secondary} {extra : List (String × Config.Value)} {g : CycleGroup}
    (he : Experiment.ofDocument doc = .ok e) (h : layout e = .ok (cads, sec, extra, g)) :
    (∀ cad ∈ cads, cad.Runs) ∧ (cads.map Cadence.id).Nodup := by
  have hle := (Experiment.window_of_ofDocument he).2.2
  have h6 : 0 < Span.sixHours.seconds := by decide
  cases hm : e.mode
  case cycled | replay =>
    obtain ⟨delay, freq, -, -, -, rfl⟩ := layout_cycled (by simp [hm]) h
    have hid := resolveSecondary_id e.sdate e.edate .synoptic delay freq
    refine ⟨fun cad hcad => ?_, ?_⟩
    · simp only [List.mem_append, List.mem_ite_nil_right, List.mem_singleton] at hcad
      rcases hcad with (⟨-, rfl⟩ | rfl) | ⟨hv, rfl⟩
      · exact Cadence.runs_active h6 (Int.le_refl _)
      · exact Cadence.runs_active h6 hle
      · exact .of_le hv (resolveSecondary_interval_pos hv) (resolveSecondary_window rfl hv).2.1
    · cases (resolveSecondary e.sdate e.edate .synoptic delay freq).cadence.valid <;>
        simp [hm, hid, Cadence.active]
  case forecastOnly =>
    obtain ⟨interval, doGomg, hi, -, -, -, rfl⟩ := layout_forecastOnly hm h
    refine ⟨fun cad hcad => ?_, ?_⟩
    · simp only [List.mem_append, List.mem_ite_nil_right, List.mem_singleton] at hcad
      rcases hcad with rfl | ⟨-, rfl⟩
      · exact Cadence.runs_active hi hle
      · -- the statistics cadence keeps the window, six hours later
        exact Cadence.runs_active hi (Int.add_le_add_right hle _)
    · cases g <;> cases doGomg <;> simp [CycleGroup.defaultCadence, Cadence.active]
  case omf | ensRegrid =>
    obtain ⟨interval, hi, -, -, rfl⟩ := layout_single (by simp [hm]) h
    exact ⟨by simpa using Cadence.runs_active hi hle, by simp⟩

/-- In cycled and replay experiments the derived base writes the secondary cadence as
`SecondaryWritten` says, and the longest forecast reads as on the input. -/
theorem secondaryWritten_of_derive {doc : Config.Document} {e : Experiment} {cal : Calendar}
    (he : Experiment.ofDocument doc = .ok e) (hd : derive e = .ok cal)
    (hm : e.mode = .cycled ∨ e.mode = .replay) :
    ∃ sec, cal.secondary = some sec ∧ SecondaryWritten e.base cal.base cal.cadences sec ∧
      fhmaxGfsLongest cal.base = fhmaxGfsLongest e.base := by
  obtain ⟨⟨a, ha⟩, ⟨b, hb⟩, -⟩ := Experiment.window_of_ofDocument he
  obtain ⟨extra, hl, hbase⟩ := base_of_derive hd
  obtain ⟨delay, freq, -, hsec, hg, hex, hc⟩ := layout_cycled_spec hm hl
  obtain ⟨fb, v, hfb, hv, rfl⟩ := secondaryEntries_spec hex
  have hid := resolveSecondary_id e.sdate e.edate .synoptic delay freq
  rw [hg] at hbase
  refine ⟨_, hsec, ?_, ?_⟩
  · rw [hbase]
    refine secondaryWritten_extend hfb hv (resolveSecondary_perDay_eq_zero_iff ..) ?_ ?_
    · -- the long-forecast cadence is laid out exactly when it runs
      rw [hc]
      rcases hm with hm | hm <;> simp [hm, hid, Cadence.active]
    · -- a running window lies on whole hours inside the main window
      intro hval
      obtain ⟨hs, hsf, hf, hs3, hf3⟩ := resolveSecondary_window rfl hval
      exact ⟨Moment.parseStamp_ymdh_of_between ha hb hs (Int.le_trans hsf hf) hs3,
        Moment.parseStamp_ymdh_of_between ha hb (Int.le_trans hs hsf) hf hf3⟩
  · rw [hbase]
    exact fhmaxGfsLongest_extend hfb hv

/-- Forecast-only, observation-minus-forecast and ensemble regridding experiments write only
their interval and primary group. -/
theorem get?_derive_of_not_cycled {e : Experiment} {cal : Calendar} (hd : derive e = .ok cal)
    (hc : e.mode ≠ .cycled) (hr : e.mode ≠ .replay) {k : String} (hk : k ≠ "INTERVAL")
    (hk' : k ≠ "CDUMP") : cal.base.get? k = e.base.get? k := by
  obtain ⟨extra, hl, hbase⟩ := base_of_derive hd
  obtain ⟨interval, rfl⟩ := layout_extra_of_not_cycled hc hr hl
  rw [hbase]
  exact Config.Scope.get?_extend_of_not_mem _ (by simp [hk, hk'])

/-- The forecast lengths are no key of the other modes, so the longest forecast reads as on the
input. -/
theorem fhmaxGfsLongest_derive_of_not_cycled {e : Experiment} {cal : Calendar}
    (hd : derive e = .ok cal) (hc : e.mode ≠ .cycled) (hr : e.mode ≠ .replay) :
    fhmaxGfsLongest cal.base = fhmaxGfsLongest e.base := by
  have hkept := fun k hk hk' => get?_derive_of_not_cycled hd hc hr (k := k) hk hk'
  refine fhmaxGfsLongest_congr (Config.Scope.intOr_congr (hkept _ (by decide) (by decide)) _)
    fun fb _ hh hmem => Config.Scope.intOr_congr (hkept _ ?_ ?_) fb
  all_goals
    simp only [List.mem_cons, List.mem_nil_iff, or_false] at hmem
    rcases hmem with rfl | rfl | rfl | rfl <;> decide

/-- A derived calendar agrees with its configuration. -/
structure Consistent (e : Experiment) (cal : Calendar) : Prop where
  /-- Every cadence laid out runs and has a first cycle. -/
  runs : ∀ cad ∈ cal.cadences, cad.Runs
  /-- No two cadences share an id. -/
  ids_nodup : (cal.cadences.map Cadence.id).Nodup
  /-- A cycled or replay calendar writes its secondary cadence over the base. -/
  secondary : e.mode = .cycled ∨ e.mode = .replay →
    ∃ sec, cal.secondary = some sec ∧ SecondaryWritten e.base cal.base cal.cadences sec
  /-- The other modes write only their interval and primary group. -/
  kept : e.mode ≠ .cycled → e.mode ≠ .replay →
    ∀ k, k ≠ "INTERVAL" → k ≠ "CDUMP" → cal.base.get? k = e.base.get? k
  /-- The longest forecast reads the same on the derived base as on the input. -/
  longest : fhmaxGfsLongest cal.base = fhmaxGfsLongest e.base

/-- The calendar derived from a checked configuration agrees with it. -/
theorem derive_consistent {doc : Config.Document} {e : Experiment} {cal : Calendar}
    (he : Experiment.ofDocument doc = .ok e) (hd : derive e = .ok cal) : Consistent e cal := by
  obtain ⟨extra, hl, -⟩ := base_of_derive hd
  obtain ⟨hruns, hnodup⟩ := layout_runs he hl
  refine ⟨hruns, hnodup, fun hm => ?_, fun hc hr k => get?_derive_of_not_cycled hd hc hr, ?_⟩
  · obtain ⟨sec, hs, hw, -⟩ := secondaryWritten_of_derive he hd hm
    exact ⟨sec, hs, hw⟩
  · by_cases hm : e.mode = .cycled ∨ e.mode = .replay
    · obtain ⟨-, -, -, hlong⟩ := secondaryWritten_of_derive he hd hm
      exact hlong
    · exact fhmaxGfsLongest_derive_of_not_cycled hd (fun h => hm (.inl h)) (fun h => hm (.inr h))

/-- A cycled configuration from 2021-12-20T18 to 2021-12-22T00 with four long forecasts a
day. -/
def fourCycleDocument : Config.Document where
  base := { entries := [("EDATE", .text "2021122200"), ("MODE", .text "cycled"), ("PSLOT", .text "x"),
    ("SCHEDULER", .text "slurm"), ("SDATE", .text "2021122018"), ("gfs_cyc", .int 4)] }
  sections := []

/-- The experiment the four-cycle configuration checks to. -/
def fourCycleSample : Experiment where
  mode := .cycled
  base := fourCycleDocument.base
  sections := []
  sdate := ⟨1640023200⟩
  edate := ⟨1640131200⟩

theorem fourCycle_consistent : Experiment.ofDocument fourCycleDocument = .ok fourCycleSample ∧
    ∃ cal, derive fourCycleSample = .ok cal ∧ Consistent fourCycleSample cal :=
  have hdoc : Experiment.ofDocument fourCycleDocument = .ok fourCycleSample := rfl
  ⟨hdoc, _, rfl, derive_consistent hdoc rfl⟩

/-- A cycled configuration with no long forecasts that gives a secondary window of its own. -/
def presetWindowDocument : Config.Document where
  base := { entries := [("EDATE", .text "2022010200"), ("EDATE_GFS", .text "2022010200"),
    ("MODE", .text "cycled"), ("PSLOT", .text "x"), ("SCHEDULER", .text "slurm"),
    ("SDATE", .text "2022010100"), ("SDATE_GFS", .text "2022010100"), ("gfs_cyc", .int 0)] }
  sections := []

/-- The experiment the preset-window configuration checks to. -/
def presetWindowSample : Experiment where
  mode := .cycled
  base := presetWindowDocument.base
  sections := []
  sdate := ⟨1640995200⟩
  edate := ⟨1641081600⟩

/-- Its derived base writes `gfs_cyc = 0` and lays out no long-forecast cadence, yet holds a
secondary window: the one it was given. -/
theorem presetWindow_kept_while_disabled :
    Experiment.ofDocument presetWindowDocument = .ok presetWindowSample ∧
      ∃ cal sec, derive presetWindowSample = .ok cal ∧ cal.secondary = some sec ∧
        cal.base.int? "gfs_cyc" = .ok (some 0) ∧ sec.cadence.valid = false ∧
        CadenceId.gfs ∉ cal.cadences.map Cadence.id ∧
        cal.base.get? "SDATE_GFS" = some (.text "2022010100") ∧
        cal.base.get? "EDATE_GFS" = some (.text "2022010200") :=
  ⟨rfl, _, _, rfl, rfl, rfl, rfl, by decide, rfl, rfl⟩

end Calendar

end CycledWorkflow
