import CycledWorkflow.Resources
import CycledWorkflow.Proofs.Outcome
/-!
# Where each resource of a task comes from

A task's resources are read from its settings, the base scope overlaid with the task's
sections. The wall time, core count, cores per node and thread count of a task `t` are read
under `wtime_t`, `npe_t`, `npe_node_t` and `nth_t`; for the long-forecast group a key with
`_gfs` appended wins when the settings hold it. The account, the memory request and the queues
are read under their own names whatever the group: none of them starts with an overridable
prefix (`key_eq_self`).

`ReadFrom` says field by field what a resolution returns, and `Readable` says which settings
must be there and have the right form. A resolution succeeds exactly when they are readable,
and then returns exactly the resources read from them: the node count is the least that holds
the cores, the threads default to one, and the queue, partition and scheduler options follow
the scheduler and whether the task is a service task.

Main statement: `resolve_follows_fallback_chain`.
-/

namespace CycledWorkflow

namespace Resources

/-! ### Reading one key -/

/-- A key that starts with neither `w` nor `n` has no overridable prefix, so every group reads
it as it is. -/
theorem key_eq_self {k : String} (h : k.toList.head? ≠ some 'w' ∧ k.toList.head? ≠ some 'n')
    (scope : Config.Scope) (g : CycleGroup) : key scope g k = k := by
  have hnot : groupOverrides.any (fun p => k.startsWith p) = false := by
    simp only [groupOverrides, List.any_cons, List.any_nil, Bool.or_false, Bool.or_eq_false_iff,
      String.startsWith_string_eq_false_iff]
    -- each prefix would put its first letter at the head of the key
    refine ⟨?_, ?_, ?_⟩ <;> rintro ⟨t, ht⟩ <;> simp [← ht] at h
  simp [key, hnot]

variable {scope : Config.Scope} {heading task : String} {g : CycleGroup} {k : String}

/-- The long-forecast group reads the `_gfs` form of a key with an overridable prefix when the
settings hold it. -/
theorem key_gfs_of_prefix {p : String} (hp : p ∈ groupOverrides) (hk : p.toList <+: k.toList)
    (h : scope.contains (k ++ "_gfs") = true) : key scope .gfs k = k ++ "_gfs" := by
  have hany : groupOverrides.any (fun p => k.startsWith p) = true :=
    List.any_eq_true.mpr ⟨p, hp, by simpa using hk⟩
  simp [key, hany, h]

/-- A cores-per-node key falls under the `npe_` prefix. -/
example (t : String) (h : scope.contains ("npe_node_" ++ t ++ "_gfs") = true) :
    key scope .gfs ("npe_node_" ++ t) = "npe_node_" ++ t ++ "_gfs" :=
  key_gfs_of_prefix (p := "npe_") (by decide) (by simp) h

theorem requiredString_eq_ok {s : String} :
    requiredString scope heading g k = .ok s ↔ scope.string? (key scope g k) = some s := by
  unfold requiredString
  dsimp only
  cases scope.string? (key scope g k) <;> simp

theorem positive_eq_ok {n : Nat} :
    positive scope heading task g k = .ok n ↔
      scope.count? (key scope g k) = .ok (some n) ∧ 0 < n := by
  unfold positive
  cases h : scope.count? (key scope g k) with
  | error e => simp [h, bind, Except.bind]
  | ok v =>
    -- a count of zero is refused like a missing one
    rcases v with _ | _ | m
    · simp [h, bind, Except.bind]
    · simp [h, bind, Except.bind]
      omega
    · simp [h, bind, Except.bind]
      omega

/-! ### The node count -/

/-- The least number of nodes of `ppn` cores each that holds `cores` cores. -/
theorem nodes_bounds {cores ppn : Nat} (hc : 0 < cores) (hp : 0 < ppn) :
    ((cores + ppn - 1) / ppn - 1) * ppn < cores ∧ cores ≤ (cores + ppn - 1) / ppn * ppn := by
  have hdiv := Nat.div_add_mod (cores + ppn - 1) ppn
  have hmod := Nat.mod_lt (cores + ppn - 1) hp
  rw [Nat.sub_one_mul]
  constructor
  · rw [Nat.mul_comm] at hdiv
    omega
  · rw [Nat.mul_comm] at hdiv
    omega

/-- A node count with those bounds is the rounded-up quotient. -/
theorem nodes_eq_of_bounds {cores ppn nodes : Nat} (hp : 0 < ppn)
    (hlt : (nodes - 1) * ppn < cores) (hle : cores ≤ nodes * ppn) :
    nodes = (cores + ppn - 1) / ppn := by
  rw [Nat.sub_one_mul] at hlt
  have hpos : 0 < nodes * ppn := by omega
  refine (Nat.div_eq_of_lt_le ?_ ?_).symm
  · omega
  · rw [Nat.succ_mul]
    omega

/-! ### What a resolution reads -/

/-- The resources a task of a group reads from its settings `scope` under a scheduler. The wall
time and the counts go through `key`, so the long-forecast group may override them; the
account, the memory and the queues are read under their own names. Slurm puts every task in
the main queue and picks the partition by whether the task is a service task; other
schedulers pick the queue that way and have neither partitions nor extra options. -/
structure ReadFrom (scope : Config.Scope) (sched : Scheduler) (task : TaskKind)
    (group : CycleGroup) (r : Resources) : Prop where
  account : scope.string? "ACCOUNT" = some r.account
  walltime : scope.string? (key scope group ("wtime_" ++ task.name)) = some r.walltime
  cores : scope.count? (key scope group ("npe_" ++ task.name)) = .ok (some r.cores)
  cores_pos : 0 < r.cores
  ppn : scope.count? (key scope group ("npe_node_" ++ task.name)) = .ok (some r.ppn)
  ppn_pos : 0 < r.ppn
  nodes_sub_one_lt : (r.nodes - 1) * r.ppn < r.cores
  cores_le_nodes : r.cores ≤ r.nodes * r.ppn
  threads : ∃ n, scope.count? (key scope group ("nth_" ++ task.name)) = .ok n ∧
    r.threads = n.getD 1
  memory : r.memory = scope.string? ("memory_" ++ task.name)
  slurm : sched = .slurm → scope.string? "QUEUE" = some r.queue ∧
    ∃ p, scope.string? (if task.isService then "QUEUE_SERVICE" else "PARTITION_BATCH") = some p ∧
      r.partition = some p ∧ r.native = some slurmNative
  other : sched ≠ .slurm →
    scope.string? (if task.isService then "QUEUE_SERVICE" else "QUEUE") = some r.queue ∧
      r.partition = none ∧ r.native = none

/-- The settings a resolution needs are there and have the form it needs: texts for the account,
wall time and queues, positive counts of cores and of cores per node, and a thread count that
is absent or a count. -/
structure Readable (scope : Config.Scope) (sched : Scheduler) (task : TaskKind)
    (group : CycleGroup) : Prop where
  account : (scope.string? "ACCOUNT").isSome
  walltime : (scope.string? (key scope group ("wtime_" ++ task.name))).isSome
  cores : ∃ n, scope.count? (key scope group ("npe_" ++ task.name)) = .ok (some n) ∧ 0 < n
  ppn : ∃ n, scope.count? (key scope group ("npe_node_" ++ task.name)) = .ok (some n) ∧ 0 < n
  threads : ∃ n, scope.count? (key scope group ("nth_" ++ task.name)) = .ok n
  queues : if sched = .slurm then
      (scope.string? "QUEUE").isSome ∧
        (scope.string? (if task.isService then "QUEUE_SERVICE" else "PARTITION_BATCH")).isSome
    else (scope.string? (if task.isService then "QUEUE_SERVICE" else "QUEUE")).isSome

/-! ### Resolution reads exactly that -/

/-- The queue and the partition of a task, as a resolution picks them. -/
def routeQueues (scope : Config.Scope) (heading : String) (g : CycleGroup) (sched : Scheduler)
    (service : Bool) : Outcome (String × Option String) :=
  if sched.usesPartitions then do
    let partition ← requiredString scope heading g
      (if service then "QUEUE_SERVICE" else "PARTITION_BATCH")
    pure (← requiredString scope heading g "QUEUE", some partition)
  else if service then do pure (← requiredString scope heading g "QUEUE_SERVICE", none)
  else do pure (← requiredString scope heading g "QUEUE", none)

/-- A resolution is a run of lookups, one per field, ending with the queues. -/
theorem resolve_eq (e : Experiment) (sched : Scheduler) (task : TaskKind) (g : CycleGroup) :
    resolve e sched task g = (do
      let scope := e.taskScope task.configSections
      let heading := "[task." ++ task.name ++ "]"
      let account ← requiredString scope heading g "ACCOUNT"
      let walltime ← requiredString scope heading g ("wtime_" ++ task.name)
      let cores ← positive scope heading task.name g ("npe_" ++ task.name)
      let ppn ← positive scope heading task.name g ("npe_node_" ++ task.name)
      let threads ← scope.count? (key scope g ("nth_" ++ task.name))
      let (queue, partition) ← routeQueues scope heading g sched task.isService
      let threads := threads.getD 1
      let memory := scope.string? (key scope g ("memory_" ++ task.name))
      let native := if sched == .slurm then some slurmNative else none
      return { account, walltime, cores, ppn, nodes := (cores + ppn - 1) / ppn, threads, memory,
               native, queue, partition }) := by
  unfold resolve routeQueues
  -- the code joins the three routes before the record; split them to compare bind by bind
  cases sched <;> cases task.isService <;>
    simp only [Scheduler.usesPartitions, bind_assoc, pure_bind, Bool.false_eq_true,
      ↓reduceIte]

/-- Slurm reads the main queue and the partition of the task's kind; other schedulers read the
queue of the task's kind and have no partition. -/
theorem routeQueues_eq_ok {scope : Config.Scope} {heading : String} {sched : Scheduler}
    {service : Bool} {q : String} {p : Option String} :
    routeQueues scope heading g sched service = .ok (q, p) ↔
      if sched = .slurm then scope.string? "QUEUE" = some q ∧
        ∃ p', scope.string? (if service then "QUEUE_SERVICE" else "PARTITION_BATCH") = some p' ∧
          p = some p'
      else scope.string? (if service then "QUEUE_SERVICE" else "QUEUE") = some q ∧ p = none := by
  unfold routeQueues
  cases sched <;> cases service <;>
    simp [Scheduler.usesPartitions, bind_eq_ok_iff, map_eq_ok_iff, requiredString_eq_ok,
      key_eq_self] <;> grind

variable {e : Experiment} {sched : Scheduler} {task : TaskKind} {d : Resources}

theorem readFrom_of_resolve (h : resolve e sched task g = .ok d) :
    ReadFrom (e.taskScope task.configSections) sched task g d := by
  rw [resolve_eq] at h
  obtain ⟨account, hacc, h⟩ := exists_ok_of_bind_ok h
  obtain ⟨walltime, hwall, h⟩ := exists_ok_of_bind_ok h
  obtain ⟨cores, hcores, h⟩ := exists_ok_of_bind_ok h
  obtain ⟨ppn, hppn, h⟩ := exists_ok_of_bind_ok h
  obtain ⟨threads, hthreads, h⟩ := exists_ok_of_bind_ok h
  obtain ⟨⟨queue, partition⟩, hqueue, h⟩ := exists_ok_of_bind_ok h
  obtain rfl := pure_eq_ok_iff.mp h
  rw [requiredString_eq_ok, key_eq_self (by simp)] at hacc
  rw [requiredString_eq_ok] at hwall
  obtain ⟨hcores, hc⟩ := positive_eq_ok.mp hcores
  obtain ⟨hppn, hp⟩ := positive_eq_ok.mp hppn
  have hroute := routeQueues_eq_ok.mp hqueue
  obtain ⟨hlt, hle⟩ := nodes_bounds hc hp
  refine ⟨hacc, hwall, hcores, hc, hppn, hp, hlt, hle, ⟨threads, hthreads, rfl⟩,
    by simp [key_eq_self], fun hs => ?_, fun hs => ?_⟩
  · subst hs
    simpa using hroute
  · simp only [hs, if_false] at hroute
    cases sched <;> simp_all

theorem resolve_of_readFrom (hr : ReadFrom (e.taskScope task.configSections) sched task g d) :
    resolve e sched task g = .ok d := by
  generalize hscope : e.taskScope task.configSections = scope at hr
  generalize hheading : "[task." ++ task.name ++ "]" = heading
  obtain ⟨threads, hthreads, hth⟩ := hr.threads
  have hacc : requiredString scope heading g "ACCOUNT" = .ok d.account :=
    requiredString_eq_ok.mpr (by rw [key_eq_self (by simp)]; exact hr.account)
  have hwall : requiredString scope heading g ("wtime_" ++ task.name) = .ok d.walltime :=
    requiredString_eq_ok.mpr hr.walltime
  have hcores : positive scope heading task.name g ("npe_" ++ task.name) = .ok d.cores :=
    positive_eq_ok.mpr ⟨hr.cores, hr.cores_pos⟩
  have hppn : positive scope heading task.name g ("npe_node_" ++ task.name) = .ok d.ppn :=
    positive_eq_ok.mpr ⟨hr.ppn, hr.ppn_pos⟩
  -- the queues and the scheduler options, by scheduler
  have hroute : routeQueues scope heading g sched task.isService = .ok (d.queue, d.partition) ∧
      (if sched == .slurm then some slurmNative else none) = d.native := by
    by_cases hs : sched = .slurm
    · obtain ⟨hq, p, hp, hpart, hnat⟩ := hr.slurm hs
      subst hs
      exact ⟨routeQueues_eq_ok.mpr (by simpa using ⟨hq, p, hp, hpart⟩), by simp [hnat]⟩
    · obtain ⟨hq, hpart, hnat⟩ := hr.other hs
      refine ⟨routeQueues_eq_ok.mpr (by simpa [hs] using ⟨hq, hpart⟩), ?_⟩
      rw [hnat]
      cases sched <;> simp_all
  have hnodes := nodes_eq_of_bounds hr.ppn_pos hr.nodes_sub_one_lt hr.cores_le_nodes
  have hmem : scope.string? (key scope g ("memory_" ++ task.name)) = d.memory := by
    rw [hr.memory, key_eq_self (by simp)]
  rw [resolve_eq]
  simp only [hscope, hheading, hacc, hwall, hcores, hppn, hthreads, hroute.1, hroute.2, hmem,
    ← hth, ← hnodes, bind, Except.bind, pure, Except.pure]

/-- A task's settings admit a resolution exactly when they are readable. -/
theorem exists_readFrom_iff {scope : Config.Scope} :
    (∃ d, ReadFrom scope sched task g d) ↔ Readable scope sched task g := by
  constructor
  · rintro ⟨d, hr⟩
    refine ⟨by simp [hr.account], by simp [hr.walltime], ⟨d.cores, hr.cores, hr.cores_pos⟩,
      ⟨d.ppn, hr.ppn, hr.ppn_pos⟩, ⟨_, hr.threads.choose_spec.1⟩, ?_⟩
    by_cases hs : sched = .slurm
    · obtain ⟨hq, p, hp, -⟩ := hr.slurm hs
      simp [hs, hq, hp]
    · simp [hs, (hr.other hs).1]
  · rintro ⟨hacc, hwall, ⟨cores, hcores, hc⟩, ⟨ppn, hppn, hp⟩, ⟨threads, hthreads⟩, hq⟩
    obtain ⟨account, hacc⟩ := Option.isSome_iff_exists.mp hacc
    obtain ⟨walltime, hwall⟩ := Option.isSome_iff_exists.mp hwall
    obtain ⟨hlt, hle⟩ := nodes_bounds hc hp
    by_cases hs : sched = .slurm
    · rw [if_pos hs] at hq
      obtain ⟨queue, hqueue⟩ := Option.isSome_iff_exists.mp hq.1
      obtain ⟨part, hpart⟩ := Option.isSome_iff_exists.mp hq.2
      exact ⟨⟨account, walltime, cores, ppn, _, threads.getD 1,
          scope.string? ("memory_" ++ task.name), some slurmNative, queue, some part⟩,
        hacc, hwall, hcores, hc, hppn, hp, hlt, hle, ⟨threads, hthreads, rfl⟩, rfl,
        fun _ => ⟨hqueue, part, hpart, rfl, rfl⟩, fun h => absurd hs h⟩
    · rw [if_neg hs] at hq
      obtain ⟨queue, hqueue⟩ := Option.isSome_iff_exists.mp hq
      exact ⟨⟨account, walltime, cores, ppn, _, threads.getD 1,
          scope.string? ("memory_" ++ task.name), none, queue, none⟩,
        hacc, hwall, hcores, hc, hppn, hp, hlt, hle, ⟨threads, hthreads, rfl⟩, rfl,
        fun h => absurd h hs, fun _ => ⟨hqueue, rfl, rfl⟩⟩

/-- **Resources follow their fallback chain.** A resolution returns exactly the resources read
from the task's settings, each field from its key with the long-forecast overrides on the wall
time and the counts only, and it fails exactly when a setting it needs is missing or has the
wrong form. -/
theorem resolve_follows_fallback_chain (e : Experiment) (sched : Scheduler) (task : TaskKind)
    (g : CycleGroup) (d : Resources) :
    (resolve e sched task g = .ok d ↔
      ReadFrom (e.taskScope task.configSections) sched task g d) ∧
    ((∃ d, resolve e sched task g = .ok d) ↔
      Readable (e.taskScope task.configSections) sched task g) := by
  have hiff : ∀ d, resolve e sched task g = .ok d ↔
      ReadFrom (e.taskScope task.configSections) sched task g d :=
    fun _ => ⟨readFrom_of_resolve, resolve_of_readFrom⟩
  refine ⟨hiff d, ?_⟩
  simp only [hiff]
  exact exists_readFrom_iff

end Resources

end CycledWorkflow
