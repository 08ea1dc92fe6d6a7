import CycledWorkflow.Proofs.Catalog.Closure
import CycledWorkflow.Proofs.Catalog.Placeholders
/-!
# The archive gate

Archiving to tape is switched by the setting `ARCHIVE_TO_HPSS`: the archive of a group that
post-processes waits, besides its products, for that setting to read `YES`. Three rules attach
this gate, each written on its own: the archive after the products, used by cycled
experiments, and the archives of forecast-only and of replay experiments. Each attaches it
only when the group post-processes, and no other rule of any mode compares texts.

The text comparisons of a description are therefore fixed by its kind and its group alone
(`Mode.describe_comparisons`): the gate, once, for the archive of a group that
post-processes, and none otherwise. A build returns descriptions of planned tasks only, so
the same holds of every specification it returns.

Main statement: `build_gates_only_archive`.
-/

namespace CycledWorkflow

namespace Predicate

/-- Whether a condition compares two texts. -/
@[simp] def isComparison : Predicate → Bool
  | .strEq _ _ => true
  | .task _ _ | .metatask _ _ | .data _ | .cycleExists _ _ => false

end Predicate

namespace TaskSpec

/-- The text comparisons among the conditions of a specification, in order. -/
def comparisons (s : TaskSpec) : List Predicate := s.leaves.filter Predicate.isComparison

@[simp] theorem comparisons_dependsOn (s : TaskSpec) (d : Option Dependency) :
    (s.dependsOn d).comparisons = (Dependency.leavesOf d).filter Predicate.isComparison := rfl

@[simp] theorem comparisons_withEnv (s : TaskSpec) (b : EnvBinding) :
    (s.withEnv b).comparisons = s.comparisons := rfl

@[simp] theorem comparisons_fannedOut (s : TaskSpec) (f : FanOut) :
    (s.fannedOut f).comparisons = s.comparisons := rfl

@[simp] theorem comparisons_spec (c : Context) (t : TaskKind) : (c.spec t).comparisons = [] :=
  rfl

@[simp] theorem comparisons_onCadence (s : TaskSpec) (c : CadenceId) :
    (s.onCadence c).comparisons = s.comparisons := rfl

end TaskSpec

namespace Context

/-- The comparisons a task of kind `t` is gated by in the group of `c`: the archive gate for
the archive of a group that post-processes, none otherwise. -/
def gatesOf (c : Context) (t : TaskKind) : List Predicate :=
  if t = .arch ∧ c.has .post = true then Products.archiveGate.leaves else []

/-- Only the archive is gated. -/
theorem gatesOf_of_ne_arch (c : Context) {t : TaskKind} (h : t ≠ .arch) : c.gatesOf t = [] := by
  simp [gatesOf, h]

end Context

/-- A chosen predecessor, if any, is waited for as a task: no comparison. -/
@[simp] theorem comparisons_leavesOf_map_peer (o : Option String) :
    (Dependency.leavesOf (o.map Dependency.peer)).filter Predicate.isComparison = [] := by
  cases o <;> rfl

@[simp] theorem comparisons_leavesOf_map_peer_comp {α : Type} (o : Option α) (g : α → String) :
    (Dependency.leavesOf (o.map fun a => Dependency.peer (g a))).filter Predicate.isComparison =
      [] := by
  cases o <;> rfl

/-! ### Rules shared by the modes -/

namespace Staging

variable {c : Context}

theorem getic_comparisons : (getic c).comparisons = [] := by
  simp [getic]

theorem eget_comparisons {s : TaskSpec} (h : eget c = .ok s) : s.comparisons = [] := by
  unfold eget at h
  obtain ⟨fan, -, h⟩ := exists_ok_of_bind_ok h
  obtain rfl := Except.ok.inj h
  simp

end Staging

namespace Products

variable {c : Context}

theorem post_comparisons {orForecast : Bool} {s : TaskSpec} (h : post c orForecast = .ok s) :
    s.comparisons = [] := by
  obtain ⟨fan, env, -, rfl⟩ := post_ok h
  simp [TaskSpec.comparisons, TaskSpec.leaves, apply_ite (List.filter Predicate.isComparison),
    -List.filter_eq_nil_iff]

theorem vrfy_comparisons : (vrfy c).comparisons = [] := by
  simp [vrfy]

theorem metp_comparisons : (metp c).comparisons = [] := by
  simp [metp]

/-- The downstream products compare no texts. -/
theorem product_comparisons {t : TaskKind} {s : TaskSpec} (h : product c t = some s) :
    s.comparisons = [] := by
  cases t <;> simp [product, productDependency, -Context.has_eq] at h <;> subst h <;>
    simp [apply_ite Dependency.leaves, apply_ite (List.filter Predicate.isComparison),
      -List.filter_eq_nil_iff, -Context.has_eq]

/-- The archive rules of the modes share one shape: with post-processing, what comes before and
then the gate, all of them; without, something else. When neither of the two compares texts,
the rule compares texts exactly as the archive is gated. -/
theorem comparisons_gatedArchive (before : Prerequisites) (without : Option Dependency)
    (hbefore : (before.children.flatMap Dependency.leaves).filter Predicate.isComparison = [])
    (hwithout : (Dependency.leavesOf without).filter Predicate.isComparison = []) :
    ((c.spec .arch).dependsOn
      (if c.has .post then (before.add archiveGate).all else without)).comparisons =
      c.gatesOf .arch := by
  unfold Context.gatesOf
  by_cases hp : c.has .post = true
  · simp [hp, hbefore, archiveGate, -Context.has_eq]
  · simp [hp, hwithout, -Context.has_eq]

/-- The archive after the products is gated exactly when the group post-processes. -/
theorem archAfterProducts_comparisons : (archAfterProducts c).comparisons = c.gatesOf .arch :=
  comparisons_gatedArchive _ _
    (by simp [apply_ite Dependency.leaves, apply_ite (List.filter Predicate.isComparison),
      -List.filter_eq_nil_iff, -Context.has_eq])
    (by simp)

end Products

/-! ### The modes -/

namespace Cycled

variable {c : Context}

theorem describe_comparisons {t : TaskKind} {s : TaskSpec} (h : describe c t = .ok s) :
    s.comparisons = c.gatesOf t := by
  cases t <;> simp only [describe, pure, Except.pure, Except.ok.injEq] at h
  case arch => exact h ▸ Products.archAfterProducts_comparisons
  all_goals rw [c.gatesOf_of_ne_arch (by decide)]
  case getic => exact h ▸ Staging.getic_comparisons
  case eget => exact Staging.eget_comparisons h
  case post => exact Products.post_comparisons h
  case vrfy => exact h ▸ Products.vrfy_comparisons
  case metp => exact h ▸ Products.metp_comparisons
  case efcs | epos | earc =>
    obtain ⟨fan, -, h⟩ := exists_ok_of_bind_ok h
    obtain rfl := Except.ok.inj h
    simp
  -- the products, or kinds a cycled experiment does not describe
  case wavepostsbs | wavepostpnt | wavepostbndpnt | wavepostbndpntbll | wavegempak
    | waveawipsbulls | waveawipsgridded | postsnd | gempak | awips | wafs | wafsgcip | wafsgrib2
    | wafsgrib20p25 | wafsblending | wafsblending0p25 | coupledIc | getic4omg | getfcst
    | aerosolInit | analinc | ocnpost | gomg | archomg | enspost | ergpos | archerg =>
    split at h
    next s' hs =>
      obtain rfl := Except.ok.inj h
      exact Products.product_comparisons hs
    next => cases h
  -- the rules that wait for tasks, files and cycles only
  all_goals
    subst h
    simp [analysisInputs, apply_ite Dependency.leavesOf,
      apply_ite (List.filter Predicate.isComparison), -List.filter_eq_nil_iff]

end Cycled

namespace ForecastOnly

variable {c : Context}

theorem describe_comparisons {t : TaskKind} {s : TaskSpec} (h : describe c t = .ok s) :
    s.comparisons = c.gatesOf t := by
  cases t <;> simp only [describe, pure, Except.pure, Except.ok.injEq] at h
  case arch =>
    -- its own archive rule, of the shared shape
    subst h
    exact Products.comparisons_gatedArchive _ _
      (by simp [apply_ite (List.filter Predicate.isComparison), -List.filter_eq_nil_iff,
        -Context.has_eq])
      (by simp)
  all_goals rw [c.gatesOf_of_ne_arch (by decide)]
  case post => exact Products.post_comparisons h
  case vrfy => exact h ▸ Products.vrfy_comparisons
  case metp => exact h ▸ Products.metp_comparisons
  case wavepostsbs | wavepostpnt | wavepostbndpnt | wavepostbndpntbll | wavegempak
    | waveawipsbulls | waveawipsgridded | postsnd | gempak | awips | wafs | wafsgcip | wafsgrib2
    | wafsgrib20p25 | wafsblending | wafsblending0p25 | eget | atmanalprep | atmanalrun
    | atmanalpost | anal | sfcanl | analcalc | gldas | waveprep | ocnpost | eobs | eomg | ediag
    | eupd | atmensanalprep | atmensanalrun | atmensanalpost | echgres | ecen | esfc | efcs
    | epos | earc | getfcst | enspost | ergpos | archerg =>
    split at h
    next s' hs =>
      obtain rfl := Except.ok.inj h
      exact Products.product_comparisons hs
    next => cases h
  -- the rules that wait for the forecast's inputs, tasks and cycles
  all_goals
    subst h
    simp [initialConditions, apply_ite Dependency.leavesOf,
      apply_ite (List.filter Predicate.isComparison), -List.filter_eq_nil_iff, -Context.has_eq]

end ForecastOnly

namespace Replay

variable {c : Context}

theorem describe_comparisons {t : TaskKind} {s : TaskSpec} (h : describe c t = .ok s) :
    s.comparisons = c.gatesOf t := by
  cases t <;> simp only [describe, pure, Except.pure, Except.ok.injEq] at h
  case arch =>
    -- its own archive rule, of the shared shape
    subst h
    exact Products.comparisons_gatedArchive _ _
      (by simp [apply_ite Dependency.leaves, apply_ite (List.filter Predicate.isComparison),
        -List.filter_eq_nil_iff, -Context.has_eq])
      (by simp [apply_ite (List.filter Predicate.isComparison), -List.filter_eq_nil_iff,
        -Context.has_eq])
  all_goals rw [c.gatesOf_of_ne_arch (by decide)]
  case getic => exact h ▸ Staging.getic_comparisons
  case post => exact Products.post_comparisons h
  case vrfy => exact h ▸ Products.vrfy_comparisons
  case metp => exact h ▸ Products.metp_comparisons
  case init =>
    subst h
    split <;> simp
  -- kinds a replay experiment does not describe
  case coupledIc | getic4omg | getfcst | aerosolInit | eget | atmanalprep | atmanalrun
    | atmanalpost | anal | analcalc | waveinit | waveprep | ocnpost | eobs | eomg | ediag | eupd
    | atmensanalprep | atmensanalrun | atmensanalpost | ecen | esfc | efcs | epos | earc
    | wavepostsbs | wavepostpnt | wavepostbndpnt | wavepostbndpntbll | wavegempak
    | waveawipsbulls | waveawipsgridded | postsnd | gempak | awips | wafs | wafsgcip | wafsgrib2
    | wafsgrib20p25 | wafsblending | wafsblending0p25 | enspost | ergpos | archerg =>
    cases h
  -- the rules that wait for restarts, logs, tasks and cycles
  all_goals
    subst h
    simp [forecastInputs, apply_ite Dependency.leavesOf, apply_ite Dependency.leaves,
      apply_ite (List.filter Predicate.isComparison), -List.filter_eq_nil_iff, -Context.has_eq]

end Replay

namespace Omf

variable {c : Context}

theorem describe_comparisons {t : TaskKind} {s : TaskSpec} (h : describe c t = .ok s) :
    s.comparisons = c.gatesOf t := by
  cases t <;> simp only [describe, pure, Except.pure, Except.ok.injEq] at h
  case getfcst | prep | gomg | analdiag | archomg =>
    subst h
    rw [c.gatesOf_of_ne_arch (by decide)]
    simp [backgroundFiles, apply_ite Dependency.leavesOf,
      apply_ite (List.filter Predicate.isComparison), -List.filter_eq_nil_iff, -Context.has_eq]
  -- kinds an observation-minus-forecast experiment does not describe
  all_goals cases h

end Omf

namespace EnsRegrid

variable {c : Context}

theorem describe_comparisons {t : TaskKind} {s : TaskSpec} (h : describe c t = .ok s) :
    s.comparisons = c.gatesOf t := by
  obtain ⟨s₀, h₀, rfl⟩ := describe_eq_ok h
  -- the previous cycle's variables leave the conditions as they are
  show s₀.comparisons = _
  cases t <;> simp only [describeOwn, pure, Except.pure, Except.ok.injEq] at h₀
  case eget => rw [Staging.eget_comparisons h₀, c.gatesOf_of_ne_arch (by decide)]
  case enspost =>
    obtain ⟨fan, -, h₀⟩ := exists_ok_of_bind_ok h₀
    obtain rfl := Except.ok.inj h₀
    simp [c.gatesOf_of_ne_arch]
  case ergpos | archerg =>
    subst h₀
    simp [c.gatesOf_of_ne_arch]
  -- kinds an ensemble regridding experiment does not describe
  all_goals cases h₀

end EnsRegrid

/-- In every mode, a description compares texts only when it is the archive of a group that
post-processes, and then once, against the archive gate. -/
theorem Mode.describe_comparisons {m : Mode} {c : Context} {t : TaskKind} {s : TaskSpec}
    (h : m.describe c t = .ok s) : s.comparisons = c.gatesOf t := by
  cases m
  case cycled => exact Cycled.describe_comparisons h
  case forecastOnly => exact ForecastOnly.describe_comparisons h
  case replay => exact Replay.describe_comparisons h
  case omf => exact Omf.describe_comparisons h
  case ensRegrid => exact EnsRegrid.describe_comparisons h

namespace Catalog

/-- **Archiving is gated only at the archive.** Every specification a build returns compares
texts only when it is the archive of a group whose plan post-processes, and then once, whether
`ARCHIVE_TO_HPSS` reads `YES`. -/
theorem build_gates_only_archive {cat : Catalog} {specs : List TaskSpec}
    (hb : cat.build = .ok specs) {s : TaskSpec} (hs : s ∈ specs) :
    s.leaves.filter Predicate.isComparison =
      if s.task = .arch ∧ cat.plan.contains s.group .post = true then
        [.strEq "${ARCHIVE_TO_HPSS}" "YES"]
      else [] := by
  obtain ⟨g, ts, -, t, -, hd, -⟩ := mem_build hb hs
  have hn := describe_names hd
  rw [hn.task, hn.group]
  exact Mode.describe_comparisons hd

/-- A cycled experiment over one day, without the wave jobs. -/
def archiveSample : Experiment where
  mode := .cycled
  base := { entries := [("DO_WAVE", .bool false), ("PSLOT", .text "x"), ("SCHEDULER", .text "slurm"),
    ("gfs_cyc", .int 4)] }
  sections := []
  sdate := ⟨1639958400⟩
  edate := ⟨1640044800⟩

/-- The archive of the data-assimilation group of a cycled experiment is gated. -/
theorem archiveSample_archive_gated : ∃ cal cat specs, Calendar.derive archiveSample = .ok cal ∧
    ofCalendar cal = .ok cat ∧ cat.build = .ok specs ∧
    ∃ s ∈ specs, s.task = .arch ∧ s.group = .gdas ∧
      s.leaves.filter Predicate.isComparison = [.strEq "${ARCHIVE_TO_HPSS}" "YES"] := by
  -- the calendar and the catalog evaluate outright; the kernel runs the plan and the build
  obtain ⟨cal, hcal, cat, hcat, harch, hpost, hok⟩ :
      ∃ cal, Calendar.derive archiveSample = .ok cal ∧
      ∃ cat, ofCalendar cal = .ok cat ∧ cat.plan.contains .gdas .arch = true ∧
        cat.plan.contains .gdas .post = true ∧ cat.build.isOk = true :=
    ⟨_, rfl, _, rfl, by decide +kernel, by decide +kernel, by decide +kernel⟩
  cases hb : cat.build with
  | error e =>
    rw [hb] at hok
    cases hok
  | ok specs =>
    obtain ⟨s, hs, hd⟩ := exists_mem_build_of_contains hb harch
    have hn := describe_names hd
    refine ⟨cal, cat, specs, hcal, hcat, hb, s, hs, hn.task, hn.group, ?_⟩
    rw [build_gates_only_archive hb hs, if_pos ⟨hn.task, hn.group ▸ hpost⟩]

end Catalog

end CycledWorkflow
