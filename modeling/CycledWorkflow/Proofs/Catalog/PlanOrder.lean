import CycledWorkflow.Catalog.Build
import Mathlib.Tactic.GCongr
/-!
# Switches never reorder a plan

Each mode plans the tasks of a group by gluing segments together, and every switch either
drops a segment or picks one of two alternatives for it. Listing every segment with all its
alternatives, in the plan's own order, gives one *order* of the kinds per mode and group
(`Mode.order`). It lists no kind twice (`Mode.order_nodup`), and the task list of that group
is a subsequence of it whatever the switches and the primary group (`Mode.sublist_order`).

Two kinds that both occur in two task lists of the same mode and group are therefore listed
the same way round in both: the order decides it (`precedes_iff_of_sublist`). And since a
subsequence of a list without repeats has none either, no task list names a kind twice
(`Mode.nodup_of_mem_plan`); the groups of a plan are distinct as well
(`Mode.nodup_plan_groups`).

Main statement: `plan_precedence_fixed`.
-/

namespace CycledWorkflow

open List (Sublist)

-- Task lists and their orders are compared segment by segment: `gcongr` splits an append
-- on both sides, and closes a segment that no switch touches by reflexivity.
attribute [gcongr] List.Sublist.append
attribute [refl] List.Sublist.refl

/-! ### Precedence in a list -/

section Precedence

variable {α : Type} {a b : α}

/-- Two different members of a list are listed one way round or the other. -/
theorem pair_sublist_or_swap (hab : a ≠ b) :
    ∀ {l : List α}, a ∈ l → b ∈ l → [a, b].Sublist l ∨ [b, a].Sublist l
  | [], ha, _ => absurd ha List.not_mem_nil
  | x :: r, ha, hb => by
    rcases List.mem_cons.mp ha with rfl | ha'
    · -- `a` heads the list, so `b` comes after it
      have hb' : b ∈ r := (List.mem_cons.mp hb).resolve_left (Ne.symm hab)
      exact .inl (.cons_cons a (List.singleton_sublist.mpr hb'))
    · rcases List.mem_cons.mp hb with rfl | hb'
      · exact .inr (.cons_cons b (List.singleton_sublist.mpr ha'))
      · exact (pair_sublist_or_swap hab ha' hb').imp (.cons x) (.cons x)

/-- A list without repeats lists two kinds one way round only. -/
theorem not_pair_sublist_swap :
    ∀ {l : List α}, l.Nodup → [a, b].Sublist l → ¬[b, a].Sublist l
  | [], _, h, _ => absurd h (by simp)
  | x :: r, hl, h, h' => by
    obtain ⟨hx, hr⟩ := List.nodup_cons.mp hl
    rcases List.sublist_cons_iff.mp h with hab | ⟨_, hax, -⟩
    · rcases List.sublist_cons_iff.mp h' with hba | ⟨_, hbx, -⟩
      · exact not_pair_sublist_swap hr hab hba
      · -- `b` heads the list, yet it also comes after `a` in the rest
        obtain ⟨rfl, -⟩ := List.cons.inj hbx
        exact hx (hab.subset (by simp : b ∈ [a, b]))
    · -- `a` heads the list, yet it also comes after `b` in the rest
      obtain ⟨rfl, -⟩ := List.cons.inj hax
      rcases List.sublist_cons_iff.mp h' with hba | ⟨_, hba, hw⟩
      · exact hx (hba.subset (by simp : a ∈ [b, a]))
      · obtain ⟨-, rfl⟩ := List.cons.inj hba
        exact hx (hw.subset (by simp : a ∈ [a]))

/-- In a subsequence of a list without repeats, two members come in the order the list gives
them. -/
theorem precedes_iff_of_sublist {l m : List α} (hlm : l.Sublist m) (hm : m.Nodup)
    (ha : a ∈ l) (hb : b ∈ l) : [a, b].Sublist l ↔ [a, b].Sublist m := by
  refine ⟨fun h => h.trans hlm, fun h => ?_⟩
  have hab : a ≠ b := by
    rintro rfl
    exact absurd (hm.sublist h) (by simp)
  rcases pair_sublist_or_swap hab ha hb with h' | h'
  · exact h'
  · exact absurd (h'.trans hlm) (not_pair_sublist_swap hm h)

end Precedence

/-! ### Switched segments -/

/-- A switched segment is a subsequence of anything its segment is. -/
theorem TaskKind.listIf_sublist_of {cond : Bool} {l m : List TaskKind} (h : l.Sublist m) :
    (TaskKind.listIf cond l).Sublist m := by
  cases cond
  · exact List.nil_sublist m
  · exact h

/-- Either of two alternatives is a subsequence of both listed one after the other. -/
theorem ite_sublist_append {α : Type} (c : Prop) [Decidable c] (l₁ l₂ : List α) :
    (if c then l₁ else l₂).Sublist (l₁ ++ l₂) := by
  split
  · exact List.sublist_append_left l₁ l₂
  · exact List.sublist_append_right l₁ l₂

/-! ### Cycled experiments -/

namespace Cycled

section Orders

-- The constructors are named plainly so that the appends elaborate quickly.
open TaskKind

/-- Preparation, both analyses and the surface analysis. -/
def beforeForecastOrder : List TaskKind :=
  [prep] ++ [eget] ++ ([atmanalprep, atmanalrun, atmanalpost] ++ [anal]) ++
    [sfcanl, analcalc]

/-- Post-processing and verification. -/
def afterForecastOrder : List TaskKind := [post] ++ [vrfy]

/-- The shared ensemble tasks of both ensemble systems; the observer comes after the
regridding in either. -/
def hybridSharedOrder : List TaskKind :=
  [eobs, eupd, atmensanalprep, atmensanalrun, atmensanalpost, echgres, eomg, ediag]

/-- The ensemble tasks of the data-assimilation group. -/
def hybridGdasOrder : List TaskKind := [ecen, esfc, efcs, epos, earc]

/-- The wave post-processing jobs. -/
def wavePostsOrder : List TaskKind :=
  [wavepostbndpnt, wavepostbndpntbll] ++ [wavepostsbs, wavepostpnt]

/-- The order of the data-assimilation group. -/
def gdasOrder : List TaskKind :=
  [getic, init] ++ beforeForecastOrder ++ [analdiag] ++ [gldas] ++ [waveinit, waveprep] ++
    [fcst] ++ afterForecastOrder ++ (hybridSharedOrder ++ hybridGdasOrder) ++ wavePostsOrder ++
    [arch]

/-- The order of the long-forecast group. -/
def gfsOrder : List TaskKind :=
  beforeForecastOrder ++ [waveinit, waveprep] ++ [fcst] ++ afterForecastOrder ++ [metp] ++
    hybridSharedOrder ++ wavePostsOrder ++ ([wavegempak] ++ [waveawipsbulls, waveawipsgridded]) ++
    [postsnd] ++ [gempak] ++ [awips] ++
    [wafs, wafsgcip, wafsgrib2, wafsgrib20p25, wafsblending, wafsblending0p25] ++ [arch]

end Orders

theorem beforeForecast_sublist (f : Features) :
    (beforeForecast f).Sublist beforeForecastOrder := by
  unfold beforeForecast beforeForecastOrder
  gcongr
  · exact TaskKind.listIf_sublist_of (.refl _)
  · exact ite_sublist_append _ _ _

theorem afterForecast_sublist (f : Features) : (afterForecast f).Sublist afterForecastOrder := by
  unfold afterForecast afterForecastOrder
  gcongr
  exact TaskKind.listIf_sublist_of (.refl _)

/-- The two ensemble systems share the regridding; the observer of the first runs after it. -/
theorem hybridShared_sublist (f : Features) : (hybridShared f).Sublist hybridSharedOrder := by
  unfold hybridShared
  apply TaskKind.listIf_sublist_of
  split
  · decide
  · split <;> decide

theorem hybridGdas_sublist (f : Features) : (hybridGdas f).Sublist hybridGdasOrder :=
  TaskKind.listIf_sublist_of (.refl _)

theorem wavePosts_sublist (f : Features) (g : CycleGroup) :
    (wavePosts f g).Sublist wavePostsOrder := by
  unfold wavePosts wavePostsOrder
  apply TaskKind.listIf_sublist_of
  gcongr
  exact TaskKind.listIf_sublist_of (.refl _)

theorem gdasTasks_sublist (f : Features) : (gdasTasks f).Sublist gdasOrder := by
  unfold gdasTasks gdasOrder
  gcongr
  -- the plain switched segments first, then the segments built by helpers
  any_goals exact TaskKind.listIf_sublist_of (.refl _)
  · exact beforeForecast_sublist f
  · exact afterForecast_sublist f
  · exact TaskKind.listIf_sublist_of ((hybridShared_sublist f).append (hybridGdas_sublist f))
  · exact wavePosts_sublist f .gdas

theorem gfsTasks_sublist (f : Features) : (gfsTasks f).Sublist gfsOrder := by
  unfold gfsTasks gfsOrder
  gcongr
  any_goals exact TaskKind.listIf_sublist_of (.refl _)
  · exact TaskKind.listIf_sublist_of (beforeForecast_sublist f)
  · exact afterForecast_sublist f
  · exact TaskKind.listIf_sublist_of (hybridShared_sublist f)
  · exact wavePosts_sublist f .gfs
  · exact TaskKind.listIf_sublist_of (.append (TaskKind.listIf_sublist_of (.refl _))
      (TaskKind.listIf_sublist_of (.refl _)))

end Cycled

/-! ### Forecast-only experiments -/

namespace ForecastOnly

open TaskKind in
/-- The order of a forecast-only experiment's group. -/
def order : List TaskKind :=
  ([coupledIc] ++ ([getic] ++ [getic4omg] ++ [init])) ++ [aerosolInit] ++ [waveinit] ++
    [fcst] ++ ([prep] ++ [analinc] ++ [gomg, analdiag]) ++ [post] ++ [ocnpost] ++
    [vrfy, metp] ++
    ([wavepostbndpnt, wavepostbndpntbll] ++ [wavepostsbs, wavepostpnt] ++ [wavegempak] ++
      [waveawipsbulls, waveawipsgridded]) ++
    [postsnd] ++ [gempak] ++ [awips] ++
    [wafs, wafsgcip, wafsgrib2, wafsgrib20p25, wafsblending, wafsblending0p25] ++ [arch] ++
    [archomg]

theorem tasks_sublist (f : Features) : (tasks f).Sublist order := by
  unfold tasks order
  dsimp only
  gcongr
  any_goals exact TaskKind.listIf_sublist_of (.refl _)
  · -- coupled initial conditions, or the staged ones
    refine (ite_sublist_append _ _ _).trans ?_
    gcongr
    all_goals exact TaskKind.listIf_sublist_of (.refl _)
  · apply TaskKind.listIf_sublist_of
    gcongr
    exact TaskKind.listIf_sublist_of (.refl _)
  · apply TaskKind.listIf_sublist_of
    gcongr
    all_goals exact TaskKind.listIf_sublist_of (.refl _)

end ForecastOnly

/-! ### Replay experiments -/

namespace Replay

open TaskKind in
/-- The order of the data-assimilation group. -/
def gdasOrder : List TaskKind :=
  [getic, init] ++ [prep] ++ ([echgres] ++ [analinc]) ++ ([sfcanl] ++ [gldas]) ++ [fcst] ++
    [post] ++ [gomg, analdiag, archomg] ++ [arch]

open TaskKind in
/-- The order of the long-forecast group. -/
def gfsOrder : List TaskKind := [fcst] ++ ([post] ++ [vrfy] ++ [metp]) ++ [arch]

theorem gdasTasks_sublist (f : Features) : (gdasTasks f).Sublist gdasOrder := by
  unfold gdasTasks gdasOrder
  gcongr
  any_goals exact TaskKind.listIf_sublist_of (.refl _)
  all_goals
    apply TaskKind.listIf_sublist_of
    gcongr
    exact TaskKind.listIf_sublist_of (.refl _)

theorem gfsTasks_sublist (f : Features) : (gfsTasks f).Sublist gfsOrder := by
  unfold gfsTasks gfsOrder
  gcongr
  apply TaskKind.listIf_sublist_of
  gcongr
  all_goals exact TaskKind.listIf_sublist_of (.refl _)

end Replay

/-! ### Observation-minus-forecast experiments -/

namespace Omf

open TaskKind in
/-- The order of an observation-minus-forecast experiment's group. -/
def order : List TaskKind := [getfcst] ++ [prep, gomg, analdiag, archomg]

theorem tasks_sublist (f : Features) : (tasks f).Sublist order := by
  unfold tasks order
  gcongr
  exact TaskKind.listIf_sublist_of (.refl _)

end Omf

/-! ### Every mode -/

namespace Mode

/-- The order of the kinds a mode plans for a group: every segment of its task list with all
its alternatives. A mode that plans only the data-assimilation group has an empty order for
the other. -/
def order : Mode → CycleGroup → List TaskKind
  | .cycled, .gdas => Cycled.gdasOrder
  | .cycled, .gfs => Cycled.gfsOrder
  | .forecastOnly, _ => ForecastOnly.order
  | .replay, .gdas => Replay.gdasOrder
  | .replay, .gfs => Replay.gfsOrder
  | .omf, .gdas => Omf.order
  | .ensRegrid, .gdas => EnsRegrid.tasks
  | .omf, .gfs | .ensRegrid, .gfs => []

/-- No order lists a kind twice. -/
theorem order_nodup (m : Mode) (g : CycleGroup) : (m.order g).Nodup := by
  cases m <;> cases g <;> decide

/-- The task list a mode plans for a group is a subsequence of the group's order, whatever
the switches and the primary group. -/
theorem sublist_order {m : Mode} {f : Features} {primary g : CycleGroup} {ts : List TaskKind}
    (h : (g, ts) ∈ (m.plan f primary).groups) : ts.Sublist (m.order g) := by
  cases m <;>
    simp only [plan, Cycled.plan, ForecastOnly.plan, Replay.plan, Omf.plan, EnsRegrid.plan,
      TaskPlan.withGroup, List.nil_append, List.cons_append, List.mem_cons,
      Prod.mk.injEq, List.not_mem_nil, or_false] at h
  case cycled =>
    rcases h with ⟨rfl, rfl⟩ | ⟨rfl, rfl⟩
    · exact Cycled.gdasTasks_sublist f
    · exact Cycled.gfsTasks_sublist f
  case forecastOnly =>
    obtain ⟨rfl, rfl⟩ := h
    exact ForecastOnly.tasks_sublist f
  case replay =>
    rcases h with ⟨rfl, rfl⟩ | ⟨rfl, rfl⟩
    · exact Replay.gdasTasks_sublist f
    · exact Replay.gfsTasks_sublist f
  case omf =>
    obtain ⟨rfl, rfl⟩ := h
    exact Omf.tasks_sublist f
  case ensRegrid =>
    obtain ⟨rfl, rfl⟩ := h
    exact .refl _

/-- No task list of a plan names a kind twice. -/
theorem nodup_of_mem_plan {m : Mode} {f : Features} {primary g : CycleGroup}
    {ts : List TaskKind} (h : (g, ts) ∈ (m.plan f primary).groups) : ts.Nodup :=
  (order_nodup m g).sublist (sublist_order h)

/-- No plan lists a group twice. -/
theorem nodup_plan_groups (m : Mode) (f : Features) (primary : CycleGroup) :
    ((m.plan f primary).groups.map Prod.fst).Nodup := by
  cases m <;> simp [plan, Cycled.plan, ForecastOnly.plan, Replay.plan, Omf.plan, EnsRegrid.plan,
    TaskPlan.withGroup]

end Mode

/-- **Switches never reorder tasks.** Whatever two sets of switches and primary groups two
plans of a mode are made with, two kinds that both occur in the task lists of one group come
in the same order in both. -/
theorem plan_precedence_fixed (m : Mode) (g : CycleGroup) {f f' : Features}
    {primary primary' : CycleGroup} {ts ts' : List TaskKind}
    (h : (g, ts) ∈ (m.plan f primary).groups) (h' : (g, ts') ∈ (m.plan f' primary').groups)
    {a b : TaskKind} (ha : a ∈ ts) (hb : b ∈ ts) (ha' : a ∈ ts') (hb' : b ∈ ts') :
    [a, b].Sublist ts ↔ [a, b].Sublist ts' := by
  rw [precedes_iff_of_sublist (Mode.sublist_order h) (Mode.order_nodup m g) ha hb,
    precedes_iff_of_sublist (Mode.sublist_order h') (Mode.order_nodup m g) ha' hb']

/-- Turning the variational analysis over to the JEDI system swaps the analysis for its three
steps, yet preparation still comes before the surface analysis. -/
theorem jedivar_keeps_prep_before_sfcanl : ∃ f f' : Features,
    Features.ofScope { entries := [] } = .ok f ∧
    Features.ofScope { entries := [("DO_JEDIVAR", .bool true)] } = .ok f' ∧
    (CycleGroup.gdas, Cycled.gdasTasks f) ∈ (Mode.plan .cycled f .gdas).groups ∧
    (CycleGroup.gdas, Cycled.gdasTasks f') ∈ (Mode.plan .cycled f' .gdas).groups ∧
    .prep ∈ Cycled.gdasTasks f ∧ .sfcanl ∈ Cycled.gdasTasks f ∧
    .prep ∈ Cycled.gdasTasks f' ∧ .sfcanl ∈ Cycled.gdasTasks f' ∧
    ([.prep, .sfcanl].Sublist (Cycled.gdasTasks f) ↔
      [.prep, .sfcanl].Sublist (Cycled.gdasTasks f')) :=
  ⟨_, _, rfl, rfl, List.mem_cons_self, List.mem_cons_self, by decide, by decide, by decide,
    by decide, @plan_precedence_fixed .cycled .gdas _ _ .gdas .gdas _ _ List.mem_cons_self
      List.mem_cons_self .prep .sfcanl (by decide) (by decide) (by decide) (by decide)⟩

end CycledWorkflow
