import CycledWorkflow.Proofs.Catalog.PlanOrder
import CycledWorkflow.Proofs.Catalog.Closure
import CycledWorkflow.Report.DryRun
import Mathlib.Data.List.Forall2
import Mathlib.Data.List.Nodup
/-!
# The graph lists the plan

The dry run prints the catalog's plan; compiling describes the same plan and assembles the
descriptions into a graph, whose entries are grouped again by group, groups in order of first
appearance. Regrouping could reorder entries, but it does not here: the descriptions come in
one block per group of the plan, and no plan lists a group twice (`Mode.nodup_plan_groups`),
so grouping gives back each block as it was (`withGroups_groupEntries`).

Reading the compiled graph group by group and entry by entry therefore gives the plan's
pairs of group and kind in the plan's order, and the dry run of the plan read off the graph is
the dry run of the catalog's plan (`compile_lists_plan`). Entry names follow from the kinds,
and no plan names a kind of a group twice, so the names of a compiled graph are distinct
(`compile_names_nodup`).

Main statements: `compile_lists_plan` and `compile_names_nodup`.
-/

namespace CycledWorkflow

/-! ### Traversals and relations, position by position -/

section Forall₂

variable {ε α β γ : Type}

/-- A successful traversal relates its inputs to its outputs position by position. -/
theorem forall₂_of_mapM_ok {f : α → Except ε β} :
    ∀ {l : List α} {r : List β}, l.mapM f = .ok r → List.Forall₂ (fun a b => f a = .ok b) l r
  | [], r, h => by
    cases h
    exact .nil
  | a :: l, r, h => by
    rw [List.mapM_cons] at h
    obtain ⟨b, hb, h⟩ := exists_ok_of_bind_ok h
    obtain ⟨r', hr, h⟩ := exists_ok_of_bind_ok h
    cases h
    exact .cons hb (forall₂_of_mapM_ok hr)

/-- Lists related position by position by equal images have equal images. -/
theorem map_eq_map_of_forall₂ {f : α → γ} {g : β → γ} :
    ∀ {l : List α} {l' : List β}, List.Forall₂ (fun a b => f a = g b) l l' → l.map f = l'.map g
  | _, _, .nil => rfl
  | _, _, .cons h hs => by rw [List.map_cons, List.map_cons, h, map_eq_map_of_forall₂ hs]

end Forall₂

/-! ### Plans as pairs -/

namespace TaskPlan

/-- The group and kind of every planned task, group by group, in order. -/
def pairs (p : TaskPlan) : List (CycleGroup × TaskKind) :=
  p.groups.flatMap fun (g, ts) => ts.map (g, ·)

theorem names_eq_map_pairs (p : TaskPlan) : p.names = p.pairs.map fun (g, k) => taskName g k := by
  simp [names, pairs, List.map_flatMap, Function.comp_def]

theorem taskCount_eq_length_pairs (p : TaskPlan) : p.taskCount = p.pairs.length := by
  -- the count is a running total over the groups
  have key : ∀ (k : Nat) (gs : List (CycleGroup × List TaskKind)),
      gs.foldl (fun n (_, ts) => n + ts.length) k =
        k + (gs.flatMap fun (g, ts) => ts.map (g, ·)).length := by
    intro k gs
    induction gs generalizing k with
    | nil => simp
    | cons gts rest ih =>
      simp only [List.foldl_cons, ih, List.flatMap_cons, List.length_append, List.length_map]
      omega
  simp [taskCount, pairs, key]

/-- A plan whose groups are distinct and whose groups list no kind twice lists no pair twice. -/
theorem nodup_pairs {p : TaskPlan} (hg : (p.groups.map Prod.fst).Nodup)
    (ht : ∀ gts ∈ p.groups, gts.2.Nodup) : p.pairs.Nodup := by
  unfold pairs
  rw [List.nodup_flatMap]
  refine ⟨fun ⟨g, ts⟩ hm => (ht _ hm).map fun _ _ h => (Prod.mk.inj h).2, ?_⟩
  -- blocks of different groups share no pair
  refine (List.pairwise_map.mp hg).imp fun {x y} hxy => ?_
  simp only [Function.onFun, List.disjoint_left, List.mem_map]
  rintro _ ⟨k, -, rfl⟩ ⟨k', -, h⟩
  exact hxy (Prod.mk.inj h).1.symm

end TaskPlan

/-- The dry run of a plan depends only on its pairs. -/
theorem Report.dryRun_congr (cal : Calendar) {p q : TaskPlan} (h : p.pairs = q.pairs) :
    Report.dryRun cal p = Report.dryRun cal q := by
  unfold Report.dryRun
  rw [TaskPlan.names_eq_map_pairs, TaskPlan.names_eq_map_pairs, TaskPlan.taskCount_eq_length_pairs,
    TaskPlan.taskCount_eq_length_pairs, h]

/-! ### Regrouping entries -/

namespace Graph

/-- The entries of a list of groups, each with its group, in order. -/
def withGroups (gs : List EntryGroup) : List (CycleGroup × Entry) :=
  gs.flatMap fun grp => grp.entries.map (grp.group, ·)

/-- The group and kind of every entry of a graph, group by group, in order. -/
def listing (G : Graph) : List (CycleGroup × TaskKind) :=
  G.groups.flatMap fun grp => grp.entries.map fun x => (grp.group, x.node.task)

/-- The plan a graph lists: each of its groups with the kinds of its entries. -/
def readPlan (G : Graph) : TaskPlan := ⟨G.groups.map fun grp => (grp.group, grp.entries.map (·.node.task))⟩

theorem pairs_readPlan (G : Graph) : G.readPlan.pairs = G.listing := by
  simp [readPlan, TaskPlan.pairs, listing, List.flatMap_map, Function.comp_def]

theorem listing_eq_map_withGroups (G : Graph) :
    G.listing = (withGroups G.groups).map fun (g, x) => (g, x.node.task) := by
  simp [listing, withGroups, List.map_flatMap, Function.comp_def]

theorem entries_eq_map_withGroups (G : Graph) : G.entries = (withGroups G.groups).map Prod.snd := by
  simp [entries, withGroups, List.map_flatMap, Function.comp_def]

section Regroup

variable {g : CycleGroup} {gs : List EntryGroup}

/-- An entry of a group not yet seen opens a group at the end. -/
theorem addToGroup_of_not_mem (hg : g ∉ gs.map (·.group)) (e : Entry) :
    addToGroup g e gs = gs ++ [⟨g, [e]⟩] := by
  induction gs with
  | nil => rfl
  | cons grp rest ih =>
    simp only [List.map_cons, List.mem_cons, not_or] at hg
    simp [addToGroup, Ne.symm hg.1, ih hg.2]

/-- An entry of the last group, seen nowhere before it, joins that group at its end. -/
theorem addToGroup_last (hg : g ∉ gs.map (·.group)) (xs : List Entry) (e : Entry) :
    addToGroup g e (gs ++ [⟨g, xs⟩]) = gs ++ [⟨g, xs ++ [e]⟩] := by
  induction gs with
  | nil => simp [addToGroup]
  | cons grp rest ih =>
    simp only [List.map_cons, List.mem_cons, not_or] at hg
    simp [addToGroup, Ne.symm hg.1, ih hg.2]

theorem withGroups_append (gs gs' : List EntryGroup) :
    withGroups (gs ++ gs') = withGroups gs ++ withGroups gs' := List.flatMap_append

/-- A run of entries of the last group joins that group in order. -/
theorem foldl_addToGroup_last (hg : g ∉ gs.map (·.group)) {es : List (CycleGroup × Entry)}
    (hes : ∀ p ∈ es, p.1 = g) (xs : List Entry) :
    es.foldl (fun gs (g, e) => addToGroup g e gs) (gs ++ [⟨g, xs⟩]) =
      gs ++ [⟨g, xs ++ es.map Prod.snd⟩] := by
  induction es generalizing xs with
  | nil => simp
  | cons p es ih =>
    obtain ⟨g', e⟩ := p
    obtain rfl : g' = g := hes _ List.mem_cons_self
    rw [List.foldl_cons]
    dsimp only
    rw [addToGroup_last hg, ih fun p hp => hes p (List.mem_cons_of_mem _ hp)]
    simp

/-- A run of entries of a group not yet seen becomes new groups at the end, all of that group,
that hold the run in order. -/
theorem foldl_addToGroup_block (hg : g ∉ gs.map (·.group)) {es : List (CycleGroup × Entry)}
    (hes : ∀ p ∈ es, p.1 = g) :
    ∃ new, es.foldl (fun gs (g, e) => addToGroup g e gs) gs = gs ++ new ∧ withGroups new = es ∧
      ∀ grp ∈ new, grp.group = g := by
  cases es with
  | nil => exact ⟨[], by simp, rfl, by simp⟩
  | cons p es =>
    obtain ⟨g', e⟩ := p
    obtain rfl : g' = g := hes _ List.mem_cons_self
    refine ⟨[⟨g', e :: es.map Prod.snd⟩], ?_, ?_, by simp⟩
    · rw [List.foldl_cons]
      dsimp only
      rw [addToGroup_of_not_mem hg,
        foldl_addToGroup_last hg (fun p hp => hes p (List.mem_cons_of_mem _ hp))]
      rfl
    · -- every entry of the run carries the group
      have hrun : (es.map Prod.snd).map (g', ·) = es := by
        calc (es.map Prod.snd).map (g', ·) = es.map fun p => (g', p.2) := by
              rw [List.map_map]
              rfl
          _ = es.map id := List.map_congr_left fun p hp =>
              Prod.ext (hes p (List.mem_cons_of_mem _ hp)).symm rfl
          _ = es := List.map_id es
      simp [withGroups, hrun]

/-- Grouping entries whose groups come in blocks, one block per group and the groups
distinct, gives back the blocks in order. -/
theorem withGroups_foldl_blocks :
    ∀ {L : List (CycleGroup × List TaskKind)} {gs : List EntryGroup}
      {es : List (CycleGroup × Entry)},
      (L.map Prod.fst).Nodup → (∀ g ∈ L.map Prod.fst, g ∉ gs.map (·.group)) →
      es.map Prod.fst = (TaskPlan.pairs ⟨L⟩).map Prod.fst →
      withGroups (es.foldl (fun gs (g, e) => addToGroup g e gs) gs) = withGroups gs ++ es
  | [], gs, es, _, _, hes => by
    simp only [TaskPlan.pairs, List.flatMap_nil, List.map_nil, List.map_eq_nil_iff] at hes
    simp [hes]
  | (g, ts) :: L, gs, es, hL, hgs, hes => by
    simp only [TaskPlan.pairs, List.flatMap_cons, List.map_append, List.map_map] at hes
    -- the first block carries the group `g`, the rest follow the other groups
    obtain ⟨es₁, es₂, rfl, h₁, h₂⟩ := List.map_eq_append_iff.mp hes
    have hblock : ∀ p ∈ es₁, p.1 = g := fun p hp => by
      have : p.1 ∈ es₁.map Prod.fst := List.mem_map_of_mem hp
      rw [h₁, List.mem_map] at this
      obtain ⟨_, -, h⟩ := this
      exact h.symm
    rw [List.map_cons, List.nodup_cons] at hL
    obtain ⟨hg, hL'⟩ := hL
    obtain ⟨new, hfold, hw, hnew⟩ := foldl_addToGroup_block (hgs g (by simp)) hblock
    rw [List.foldl_append, hfold, withGroups_foldl_blocks hL' _ h₂, withGroups_append, hw,
      List.append_assoc]
    -- the groups after the first block are those before it and `g`, none of the later ones
    intro g' hg' hmem
    rw [List.map_append, List.mem_append] at hmem
    rcases hmem with hmem | hmem
    · exact hgs g' (by simp [hg']) hmem
    · obtain ⟨grp, hgrp, rfl⟩ := List.mem_map.mp hmem
      rw [hnew grp hgrp] at hg'
      exact hg hg'

/-- Grouping entries whose groups follow the blocks of a plan with distinct groups keeps them
in order. -/
theorem withGroups_groupEntries {p : TaskPlan} (hp : (p.groups.map Prod.fst).Nodup)
    {es : List (CycleGroup × Entry)} (hes : es.map Prod.fst = p.pairs.map Prod.fst) :
    withGroups (groupEntries es) = es := by
  unfold groupEntries
  rw [withGroups_foldl_blocks hp (by simp) hes]
  rfl

end Regroup

end Graph

/-! ### What compiling makes -/

namespace Catalog

variable {cat : Catalog} {specs : List TaskSpec}

/-- A successful build describes the plan's pairs position by position. -/
theorem forall₂_build (hb : cat.build = .ok specs) :
    List.Forall₂ (fun p s => cat.mode.describe (cat.context p.1) p.2 = .ok s) cat.plan.pairs
      specs := by
  rw [build_eq] at hb
  obtain ⟨groups, hg, hb⟩ := exists_ok_of_bind_ok hb
  cases hb
  rw [TaskPlan.pairs, List.flatMap_def]
  apply List.rel_flatten
  rw [List.forall₂_map_left_iff]
  refine (forall₂_of_mapM_ok hg).imp fun ⟨g, ts⟩ ss h => ?_
  rw [List.forall₂_map_left_iff]
  exact (forall₂_of_mapM_ok h).imp fun t s h => (describeChecked_ok h).1

/-- The descriptions of a build follow the plan's pairs and are named by them. -/
theorem build_follows_plan (hb : cat.build = .ok specs) :
    specs.map (fun s => (s.group, s.task)) = cat.plan.pairs ∧
      specs.map TaskSpec.entryName = cat.plan.pairs.map fun (g, k) => entryName g k := by
  have h := forall₂_build hb
  constructor
  · refine (map_eq_map_of_forall₂ (g := id) (List.Forall₂.flip ?_)).trans (List.map_id _)
    refine h.imp fun p s hs => ?_
    have hn := describe_names hs
    exact Prod.ext hn.group hn.task
  · refine map_eq_map_of_forall₂ (List.Forall₂.flip ?_)
    refine h.imp fun ⟨g, k⟩ s hs => ?_
    exact (describe_names hs).entryName

end Catalog

namespace Graph

variable {cal : Calendar} {specs : List TaskSpec} {t : String} {G : Graph}

/-- An assembled graph groups one entry per description, position by position. -/
theorem assemble_entries (h : assemble cal specs t = .ok G) :
    ∃ m es, List.Forall₂ (fun s e => e.1 = s.group ∧ ∃ r, e.2 = entryOf s r m) specs es ∧
      G.groups = groupEntries es := by
  unfold assemble at h
  obtain ⟨sched, -, h⟩ := exists_ok_of_bind_ok h
  obtain ⟨settings, -, h⟩ := exists_ok_of_bind_ok h
  obtain ⟨bindings, -, h⟩ := exists_ok_of_bind_ok h
  obtain ⟨es, hes, h⟩ := exists_ok_of_bind_ok h
  obtain ⟨u, -, h⟩ := exists_ok_of_bind_ok h
  obtain rfl := Except.ok.inj h
  refine ⟨settings.maxTries, es, (forall₂_of_mapM_ok hes).imp fun s e hs => ?_, rfl⟩
  obtain ⟨r, -, hr⟩ := exists_ok_of_bind_ok hs
  obtain rfl := Except.ok.inj hr
  exact ⟨rfl, r, rfl⟩

end Graph

namespace Catalog

/-- The plan of a catalog lists no group twice. -/
theorem nodup_plan_groups (cat : Catalog) : (cat.plan.groups.map Prod.fst).Nodup :=
  (Mode.nodup_plan_groups _ _ _).sublist (List.filter_sublist.map _)

/-- No group of a catalog's plan lists a kind twice. -/
theorem nodup_of_mem_plan {cat : Catalog} {g : CycleGroup} {ts : List TaskKind}
    (h : (g, ts) ∈ cat.plan.groups) : ts.Nodup :=
  Mode.nodup_of_mem_plan (List.mem_of_mem_filter h)

end Catalog

@[simp] theorem Graph.group_entryOf (s : TaskSpec) (r : Resources) (m : Nat) :
    (Graph.entryOf s r m).node.group = s.group := by
  unfold Graph.entryOf
  cases s.fanOut <;> rfl

@[simp] theorem Graph.task_entryOf (s : TaskSpec) (r : Resources) (m : Nat) :
    (Graph.entryOf s r m).node.task = s.task := by
  unfold Graph.entryOf
  cases s.fanOut <;> rfl

section Compile

variable {e : Experiment} {t : String} {G : Graph}

/-- A compiled graph holds, group by group and in order, one entry for each description of the
catalog's build. -/
theorem compile_entries (h : Graph.compile e t = .ok G) :
    ∃ cal cat specs m es, Calendar.derive e = .ok cal ∧ Catalog.ofCalendar cal = .ok cat ∧
      cat.build = .ok specs ∧
      List.Forall₂ (fun s e => e.1 = s.group ∧ ∃ r, e.2 = Graph.entryOf s r m) specs es ∧
      Graph.withGroups G.groups = es := by
  unfold Graph.compile at h
  obtain ⟨cal, hd, h⟩ := exists_ok_of_bind_ok h
  obtain ⟨cat, hc, h⟩ := exists_ok_of_bind_ok h
  obtain ⟨specs, hb, h⟩ := exists_ok_of_bind_ok h
  obtain ⟨m, es, hes, hG⟩ := Graph.assemble_entries h
  refine ⟨cal, cat, specs, m, es, hd, hc, hb, hes, ?_⟩
  -- the entries' groups run through the plan's groups block by block
  have hgroups : es.map Prod.fst = cat.plan.pairs.map Prod.fst := by
    rw [← (Catalog.build_follows_plan hb).1, List.map_map]
    exact (map_eq_map_of_forall₂ (hes.imp fun s e h => h.1.symm)).symm
  rw [hG]
  exact Graph.withGroups_groupEntries cat.nodup_plan_groups hgroups

/-- **The graph lists the plan.** For every experiment that compiles, reading the graph's
groups in order and each group's entries in order gives the catalog plan's pairs of group and
kind, in the plan's order; so the dry run of the plan read off the graph is the dry run of the
catalog's plan. Position by position, each entry is the entry of the description of its pair:
of its group and kind, a metatask exactly when the description fans out, and named by the
task's full name when it runs once. -/
theorem compile_lists_plan (h : Graph.compile e t = .ok G) :
    ∃ cal cat specs, Calendar.derive e = .ok cal ∧ Catalog.ofCalendar cal = .ok cat ∧
      cat.build = .ok specs ∧ G.listing = cat.plan.pairs ∧
      Report.dryRun cal G.readPlan = Report.dryRun cal cat.plan ∧
      List.Forall₂ (fun x s => x.node.group = s.group ∧ x.node.task = s.task ∧
        x.isMetatask = s.fanOut.isSome ∧ (s.fanOut = none → x.name = taskName s.group s.task))
        G.entries specs := by
  obtain ⟨cal, cat, specs, m, es, hd, hc, hb, hes, hw⟩ := compile_entries h
  have hlisting : G.listing = cat.plan.pairs := by
    rw [Graph.listing_eq_map_withGroups, hw, ← (Catalog.build_follows_plan hb).1]
    refine (map_eq_map_of_forall₂ (hes.imp fun s ⟨g, x⟩ h => ?_)).symm
    obtain ⟨rfl, r, rfl⟩ := h
    simp
  refine ⟨cal, cat, specs, hd, hc, hb, hlisting,
    Report.dryRun_congr cal ((Graph.pairs_readPlan G).trans hlisting), ?_⟩
  rw [Graph.entries_eq_map_withGroups, hw, List.forall₂_map_left_iff]
  refine List.Forall₂.flip (hes.imp fun s ⟨g, x⟩ h => ?_)
  obtain ⟨-, r, rfl⟩ := h
  refine ⟨Graph.group_entryOf s r m, Graph.task_entryOf s r m, Graph.isMetatask_entryOf s r m,
    fun hf => ?_⟩
  rw [Graph.name_entryOf, TaskSpec.entryName, hf]
  rfl

/-- **Entry names are distinct.** For every experiment that compiles, no two entries of the
graph share a name; in particular no metatask is named like a task that runs once. And
whatever the mode, the switches and the primary group, no group of a plan lists a kind of
task twice. -/
theorem compile_names_nodup (h : Graph.compile e t = .ok G) :
    G.names.Nodup ∧
      (∀ x ∈ G.entries, ∀ y ∈ G.entries, x.isMetatask = true → y.isMetatask = false →
        x.name ≠ y.name) ∧
      ∀ (m : Mode) f primary g ts, (g, ts) ∈ (m.plan f primary).groups → ts.Nodup := by
  obtain ⟨cal, cat, specs, m, es, hd, hc, hb, hes, hw⟩ := compile_entries h
  -- the names are those of the plan's pairs, which are distinct, by an injective naming
  have hnames : G.names = cat.plan.pairs.map fun (g, k) => entryName g k := by
    rw [Graph.names, Graph.entries_eq_map_withGroups, hw, List.map_map,
      ← (Catalog.build_follows_plan hb).2]
    refine (map_eq_map_of_forall₂ (hes.imp fun s ⟨g, x⟩ h => ?_)).symm
    obtain ⟨-, r, rfl⟩ := h
    exact (Graph.name_entryOf s r m).symm
  have hpairs : cat.plan.pairs.Nodup :=
    TaskPlan.nodup_pairs cat.nodup_plan_groups fun _ hm => Catalog.nodup_of_mem_plan hm
  have hnodup : G.names.Nodup := by
    rw [hnames]
    refine hpairs.map_on fun ⟨g, k⟩ _ ⟨g', k'⟩ _ hn => ?_
    obtain ⟨rfl, rfl⟩ := entryName_inj hn
    rfl
  refine ⟨hnodup, fun x hx y hy hxm hym hn => ?_, fun _ _ _ _ _ => Mode.nodup_of_mem_plan⟩
  -- two entries of one name are one entry, which cannot be both a metatask and a task
  have hxy : x = y := List.inj_on_of_nodup_map hnodup hx hy hn
  rw [hxy, hym] at hxm
  exact Bool.false_ne_true hxm

end Compile

/-- An observation-minus-forecast experiment over one day with every setting its graph needs:
the experiment's name and directories, the account, queues and partition, and each task's wall
time, cores and cores per node. -/
def omfComplete : Experiment where
  mode := .omf
  base := { entries := [("ACCOUNT", .text "a"), ("DMPDIR", .text "/d"), ("EXPDIR", .text "/e"),
    ("HOMEgfs", .text "/h"), ("ICSDIR", .text "/i"), ("PARTITION_BATCH", .text "b"),
    ("PSLOT", .text "x"), ("QUEUE", .text "q"), ("QUEUE_SERVICE", .text "s"),
    ("ROTDIR", .text "/r"), ("SCHEDULER", .text "slurm"),
    ("npe_analdiag", .int 1), ("npe_archomg", .int 1), ("npe_gomg", .int 1),
    ("npe_node_analdiag", .int 1), ("npe_node_archomg", .int 1), ("npe_node_gomg", .int 1),
    ("npe_node_prep", .int 1), ("npe_prep", .int 1),
    ("wtime_analdiag", .text "1"), ("wtime_archomg", .text "1"), ("wtime_gomg", .text "1"),
    ("wtime_prep", .text "1")] }
  sections := []
  sdate := ⟨1639958400⟩
  edate := ⟨1640044800⟩

theorem omfComplete_compiles : ∃ G, Graph.compile omfComplete "" = .ok G := by
  have hok : (Graph.compile omfComplete "").isOk = true := by decide +kernel
  cases hG : Graph.compile omfComplete "" with
  | error err =>
    rw [hG] at hok
    cases hok
  | ok G => exact ⟨G, rfl⟩

theorem omfComplete_lists_plan : ∃ G, Graph.compile omfComplete "" = .ok G ∧
    ∃ cal cat specs, Calendar.derive omfComplete = .ok cal ∧ Catalog.ofCalendar cal = .ok cat ∧
      cat.build = .ok specs ∧ G.listing = cat.plan.pairs ∧
      Report.dryRun cal G.readPlan = Report.dryRun cal cat.plan ∧
      List.Forall₂ (fun x s => x.node.group = s.group ∧ x.node.task = s.task ∧
        x.isMetatask = s.fanOut.isSome ∧ (s.fanOut = none → x.name = taskName s.group s.task))
        G.entries specs := by
  obtain ⟨G, hG⟩ := omfComplete_compiles
  exact ⟨G, hG, compile_lists_plan hG⟩

theorem omfComplete_names_nodup : ∃ G, Graph.compile omfComplete "" = .ok G ∧
    G.names.Nodup ∧
      (∀ x ∈ G.entries, ∀ y ∈ G.entries, x.isMetatask = true → y.isMetatask = false →
        x.name ≠ y.name) ∧
      ∀ (m : Mode) f primary g ts, (g, ts) ∈ (m.plan f primary).groups → ts.Nodup := by
  obtain ⟨G, hG⟩ := omfComplete_compiles
  exact ⟨G, hG, compile_names_nodup hG⟩

end CycledWorkflow
