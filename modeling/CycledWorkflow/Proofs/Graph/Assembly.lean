import CycledWorkflow.Proofs.Catalog.Entries
import CycledWorkflow.Proofs.Outcome
/-!
# What assembling a graph can report

Assembling a graph from described tasks first reads the scheduler, the engine settings, the
bindings and each task's resources, and then checks the graph. The readers stop, if at all,
with configuration errors; so do the checks of bindings and placeholders. An unknown reference
or a loop of same-cycle dependencies can therefore only come from the reference check or the
order check of the graph made of the described tasks' entries (`assemble_check_error`).

The reference check passes exactly when every condition names an entry of its kind
(`checkReferences_eq_ok`); entries are kept by grouping (`mem_groupEntries`) and carry their
description's name, kind and dependency (`name_entryOf`, `isMetatask_entryOf`,
`dependency_entryOf`).

Main statements: `assemble_check_error` and `checkReferences_eq_ok`.
-/

namespace CycledWorkflow

namespace WorkflowError
/-- Whether an error is one the checks of a finished graph report: an unknown reference or a
loop of same-cycle dependencies. -/
def isCheck : WorkflowError → Bool
  | .unknownReference _ _ | .dependencyCycle _ => true
  | _ => false
end WorkflowError

/-! ### Errors before the checks -/

namespace Config.Scope
variable (s : Scope) (key : String)

theorem int?_avoids : Avoids (·.isCheck) (s.int? key) := by
  unfold int?
  split
  · exact avoids_pure _
  · exact avoids_pure _
  · split
    · exact avoids_pure _
    · exact avoids_throw (by simp [WorkflowError.isCheck])
  · exact avoids_throw (by simp [WorkflowError.isCheck])

theorem count?_avoids : Avoids (·.isCheck) (s.count? key) := by
  unfold count?
  refine avoids_bind (int?_avoids s key) fun n _ => ?_
  split
  · exact avoids_pure _
  · split
    · exact avoids_pure _
    · exact avoids_throw (by simp [WorkflowError.isCheck])

theorem flag_avoids (d : Bool) : Avoids (·.isCheck) (s.flag key d) := by
  unfold flag
  split
  case h_5 =>
    dsimp only
    split
    · exact avoids_pure _
    · split
      · exact avoids_pure _
      · exact avoids_throw (by simp [WorkflowError.isCheck])
  case h_6 => exact avoids_throw (by simp [WorkflowError.isCheck])
  all_goals exact avoids_pure _

end Config.Scope

theorem Config.schedulerOf_avoids (s : Config.Scope) :
    Avoids (·.isCheck) (Config.schedulerOf s) := by
  unfold Config.schedulerOf
  cases s.string? "SCHEDULER" with
  | some text =>
    dsimp only
    cases Scheduler.parse text with
    | ok sched => exact avoids_pure _
    | error _ => exact avoids_throw (by simp [WorkflowError.isCheck])
  | none =>
    dsimp only
    cases s.string? "machine" with
    | some machine =>
      dsimp only
      cases Scheduler.ofMachine machine with
      | some sched => exact avoids_pure _
      | none => exact avoids_throw (by simp [WorkflowError.isCheck])
    | none => exact avoids_throw (by simp [WorkflowError.isCheck])

namespace Resources

theorem requiredString_avoids (scope : Config.Scope) (heading : String) (g : CycleGroup)
    (k : String) : Avoids (·.isCheck) (requiredString scope heading g k) := by
  unfold requiredString
  dsimp only
  split
  · exact avoids_pure _
  · exact avoids_throw (by simp [WorkflowError.isCheck])

theorem positive_avoids (scope : Config.Scope) (heading task : String) (g : CycleGroup)
    (k : String) : Avoids (·.isCheck) (positive scope heading task g k) := by
  unfold positive
  refine avoids_bind (Config.Scope.count?_avoids _ _) fun _ _ => ?_
  split
  · exact avoids_throw (by simp [WorkflowError.isCheck])
  · exact avoids_throw (by simp [WorkflowError.isCheck])
  · exact avoids_pure _

theorem resolve_avoids (e : Experiment) (sched : Scheduler) (t : TaskKind) (g : CycleGroup) :
    Avoids (·.isCheck) (resolve e sched t g) := by
  unfold resolve
  refine avoids_bind (requiredString_avoids _ _ _ _) fun _ _ => ?_
  refine avoids_bind (requiredString_avoids _ _ _ _) fun _ _ => ?_
  refine avoids_bind (positive_avoids _ _ _ _ _) fun _ _ => ?_
  refine avoids_bind (positive_avoids _ _ _ _ _) fun _ _ => ?_
  refine avoids_bind (Config.Scope.count?_avoids _ _) fun _ _ => ?_
  dsimp only
  -- the queue, and the partition where the scheduler uses them
  split
  · exact avoids_bind (requiredString_avoids _ _ _ _) fun _ _ =>
      avoids_bind (requiredString_avoids _ _ _ _) fun _ _ =>
        avoids_bind (avoids_pure _) fun ⟨_, _⟩ _ => avoids_pure _
  · split <;>
      exact avoids_bind (requiredString_avoids _ _ _ _) fun _ _ =>
        avoids_bind (avoids_pure _) fun ⟨_, _⟩ _ => avoids_pure _

end Resources

namespace Graph

theorem settingsOf_avoids (s : Config.Scope) : Avoids (·.isCheck) (settingsOf s) := by
  unfold settingsOf
  refine avoids_bind (Config.Scope.count?_avoids _ _) fun _ _ => ?_
  refine avoids_bind (Config.Scope.count?_avoids _ _) fun _ _ => ?_
  refine avoids_bind (Config.Scope.count?_avoids _ _) fun _ _ => ?_
  dsimp only
  split
  · exact avoids_bind (avoids_throw (by simp [WorkflowError.isCheck])) fun _ _ => avoids_pure _
  · exact avoids_pure _

theorem bindingsOf_avoids (s : Config.Scope) : Avoids (·.isCheck) (bindingsOf s) := by
  unfold bindingsOf
  split
  · exact avoids_bind (avoids_pure _) fun _ _ =>
      avoids_bind (Config.Scope.flag_avoids _ _ _) fun _ _ => avoids_pure _
  · exact avoids_bind (avoids_throw (by simp [WorkflowError.isCheck])) fun _ _ =>
      avoids_bind (Config.Scope.flag_avoids _ _ _) fun _ _ => avoids_pure _
/-! ### Grouping entries -/

theorem mem_addToGroup {g : CycleGroup} {e x : Entry} :
    ∀ {gs : List EntryGroup},
      x ∈ (addToGroup g e gs).flatMap (·.entries) ↔ x ∈ gs.flatMap (·.entries) ∨ x = e
  | [] => by simp [addToGroup]
  | grp :: rest => by
    unfold addToGroup
    split
    · simp [or_assoc, or_comm (a := x = e)]
    · simp [mem_addToGroup, or_assoc]

theorem mem_foldl_addToGroup {x : Entry} :
    ∀ {es : List (CycleGroup × Entry)} {gs : List EntryGroup},
      x ∈ (es.foldl (fun gs (g, e) => addToGroup g e gs) gs).flatMap (·.entries) ↔
        x ∈ gs.flatMap (·.entries) ∨ ∃ g, (g, x) ∈ es
  | [], gs => by simp
  | (g, e) :: es, gs => by
    rw [List.foldl_cons, mem_foldl_addToGroup, mem_addToGroup]
    simp only [List.mem_cons, Prod.mk.injEq]
    constructor
    · rintro ((h | rfl) | ⟨g', h⟩)
      · exact Or.inl h
      · exact Or.inr ⟨g, Or.inl ⟨rfl, rfl⟩⟩
      · exact Or.inr ⟨g', Or.inr h⟩
    · rintro (h | ⟨g', ⟨-, rfl⟩ | h⟩)
      · exact Or.inl (Or.inl h)
      · exact Or.inl (Or.inr rfl)
      · exact Or.inr ⟨g', h⟩

/-- Grouping keeps every entry and adds none. -/
theorem mem_groupEntries {es : List (CycleGroup × Entry)} {x : Entry} :
    x ∈ (groupEntries es).flatMap (·.entries) ↔ ∃ g, (g, x) ∈ es := by
  unfold groupEntries
  rw [mem_foldl_addToGroup]
  simp

/-! ### The entry of a description -/

@[simp] theorem name_entryOf (s : TaskSpec) (r : Resources) (m : Nat) :
    (entryOf s r m).name = s.entryName := by
  unfold entryOf TaskSpec.entryName
  cases s.fanOut <;> rfl

@[simp] theorem isMetatask_entryOf (s : TaskSpec) (r : Resources) (m : Nat) :
    (entryOf s r m).isMetatask = s.fanOut.isSome := by
  unfold entryOf
  cases s.fanOut <;> rfl

@[simp] theorem dependency_entryOf (s : TaskSpec) (r : Resources) (m : Nat) :
    (entryOf s r m).node.dependency = s.dependency := by
  unfold entryOf
  cases s.fanOut <;> rfl

/-! ### Checking references -/

/-- Every condition of an entry names an entry of its kind among `es`. -/
def ReferencesKnown (es : List Entry) : Prop :=
  ∀ e ∈ es, ∀ leaf ∈ Dependency.leavesOf e.node.dependency,
    (∀ r o, leaf = .task r o → ∃ e' ∈ es, e'.isMetatask = false ∧ e'.name = r) ∧
    (∀ r o, leaf = .metatask r o → ∃ e' ∈ es, e'.isMetatask = true ∧ e'.name = r)

/-- The reference check passes when every condition names an entry of its kind. -/
theorem checkReferences_eq_ok {G : Graph} (h : ReferencesKnown G.entries) :
    G.checkReferences = .ok () := by
  unfold checkReferences
  dsimp only
  rw [List.findSome?_eq_none_iff.mpr]
  · rfl
  intro e he
  rw [Option.map_eq_none_iff]
  unfold unknownReference
  cases hd : e.node.dependency with
  | none => rfl
  | some d =>
    rw [List.findSome?_eq_none_iff]
    intro leaf hleaf
    have hk := h e he leaf (by simpa [hd] using hleaf)
    cases leaf with
    | task r o =>
      obtain ⟨e', he', hm, rfl⟩ := hk.1 r o rfl
      simpa [Predicate.reference, Predicate.isMetatask] using ⟨e', he', hm, rfl⟩
    | metatask r o =>
      obtain ⟨e', he', hm, rfl⟩ := hk.2 r o rfl
      simpa [Predicate.reference, Predicate.isMetatask] using ⟨e', he', hm, rfl⟩
    | _ => rfl

/-! ### The checks -/

theorem checkBindings_avoids (G : Graph) : Avoids (·.isCheck) G.checkBindings := by
  unfold checkBindings
  split
  · exact avoids_throw (by simp [WorkflowError.isCheck])
  · exact avoids_pure _

theorem checkPlaceholders_avoids (G : Graph) : Avoids (·.isCheck) G.checkPlaceholders := by
  unfold checkPlaceholders
  split
  · exact avoids_throw (by simp [WorkflowError.isCheck])
  · exact avoids_pure _

/-- The reference check reports unknown references only. -/
theorem checkReferences_error {G : Graph} {err : WorkflowError}
    (h : G.checkReferences = .error err) :
    ∃ task r, err = .unknownReference task r := by
  unfold checkReferences at h
  dsimp only at h
  split at h
  · exact ⟨_, _, (Except.error.inj h).symm⟩
  · cases h

/-- The order check reports loops only. -/
theorem checkOrder_error {G : Graph} {err : WorkflowError} (h : G.checkOrder = .error err) :
    ∃ msg, err = .dependencyCycle msg := by
  unfold checkOrder at h
  split at h
  · exact ⟨_, (Except.error.inj h).symm⟩
  · cases h

/-- The entries of a graph are those of a list of described tasks, each with some resources. -/
structure EntriesOf (G : Graph) (specs : List TaskSpec) (m : Nat) : Prop where
  described : ∀ x ∈ G.entries, ∃ s ∈ specs, ∃ r, x = entryOf s r m
  complete : ∀ s ∈ specs, ∃ r, entryOf s r m ∈ G.entries

section Made

variable {e : Experiment} {sched : Scheduler} {m : Nat} {specs : List TaskSpec}
  {entries : List (CycleGroup × Entry)}

/-- The assembly makes one entry per described task, under the task's group. -/
theorem mem_entries_of_mapM
    (hes : specs.mapM (fun s => do
      let r ← Resources.resolve e sched s.task s.group
      return (s.group, entryOf s r m)) = .ok entries) :
    (∀ g x, (g, x) ∈ entries → ∃ s ∈ specs, ∃ r, g = s.group ∧ x = entryOf s r m) ∧
    ∀ s ∈ specs, ∃ r, (s.group, entryOf s r m) ∈ entries := by
  constructor
  · intro g x hg
    obtain ⟨s, hs, hf⟩ := exists_input_of_mapM_ok hes _ hg
    obtain ⟨r, -, hr⟩ := exists_ok_of_bind_ok hf
    obtain ⟨rfl, rfl⟩ := Prod.mk.inj (Except.ok.inj hr)
    exact ⟨s, hs, r, rfl, rfl⟩
  · intro s hs
    obtain ⟨⟨g, x⟩, hm, hf⟩ := exists_output_of_mapM_ok hes s hs
    obtain ⟨r, -, hr⟩ := exists_ok_of_bind_ok hf
    obtain ⟨rfl, rfl⟩ := Prod.mk.inj (Except.ok.inj hr)
    exact ⟨r, hm⟩

/-- Grouping the entries of described tasks gives a graph of their entries. -/
theorem entriesOf_groupEntries
    (hes : specs.mapM (fun s => do
      let r ← Resources.resolve e sched s.task s.group
      return (s.group, entryOf s r m)) = .ok entries)
    {G : Graph} (hG : G.groups = groupEntries entries) : EntriesOf G specs m := by
  have hmem : ∀ x, x ∈ G.entries ↔ ∃ g, (g, x) ∈ entries := fun x => by
    rw [Graph.entries, hG, mem_groupEntries]
  obtain ⟨hmade, hall⟩ := mem_entries_of_mapM hes
  refine ⟨fun x hx => ?_, fun s hs => ?_⟩
  · obtain ⟨g, hg⟩ := (hmem x).mp hx
    obtain ⟨s, hs, r, -, rfl⟩ := hmade g x hg
    exact ⟨s, hs, r, rfl⟩
  · obtain ⟨r, hr⟩ := hall s hs
    exact ⟨r, (hmem _).mpr ⟨_, hr⟩⟩

end Made

/-! ### The groups of a graph -/

theorem exists_group_addToGroup {g g' : CycleGroup} {e : Entry} :
    ∀ {gs : List EntryGroup},
      (∃ grp ∈ addToGroup g e gs, grp.group = g') ↔ (∃ grp ∈ gs, grp.group = g') ∨ g = g'
  | [] => by simp [addToGroup]
  | grp :: rest => by
    unfold addToGroup
    split
    · next h =>
      simp only [List.mem_cons, exists_eq_or_imp]
      constructor
      · rintro (h' | h')
        · exact .inl (.inl h')
        · exact .inl (.inr h')
      · rintro ((h' | h') | rfl)
        · exact .inl h'
        · exact .inr h'
        · exact .inl h
    · simp only [List.mem_cons, exists_eq_or_imp, exists_group_addToGroup, or_assoc]

/-- Grouping makes a group exactly for the groups of the entries. -/
theorem exists_group_groupEntries {es : List (CycleGroup × Entry)} {g : CycleGroup} :
    (∃ grp ∈ groupEntries es, grp.group = g) ↔ ∃ x, (g, x) ∈ es := by
  unfold groupEntries
  -- the fold adds the group of each entry to those already made
  suffices h : ∀ gs : List EntryGroup,
      (∃ grp ∈ es.foldl (fun gs (g, e) => addToGroup g e gs) gs, grp.group = g) ↔
        (∃ grp ∈ gs, grp.group = g) ∨ ∃ x, (g, x) ∈ es by
    simpa using h []
  induction es with
  | nil => simp
  | cons ge es ih =>
    intro gs
    obtain ⟨g', x'⟩ := ge
    rw [List.foldl_cons, ih, exists_group_addToGroup]
    constructor
    · rintro ((h | rfl) | ⟨x, hx⟩)
      · exact .inl h
      · exact .inr ⟨x', List.mem_cons_self ..⟩
      · exact .inr ⟨x, List.mem_cons_of_mem _ hx⟩
    · rintro (h | ⟨x, hx⟩)
      · exact .inl (.inl h)
      · rcases List.mem_cons.mp hx with hx | hx
        · obtain ⟨rfl, -⟩ := Prod.mk.inj hx
          exact .inl (.inr rfl)
        · exact .inr ⟨x, hx⟩

@[simp] theorem cadence_entryOf (s : TaskSpec) (r : Resources) (m : Nat) :
    (entryOf s r m).node.cadence = s.cadence := by
  unfold entryOf
  cases s.fanOut <;> rfl

/-- An unknown reference or a loop reported by assembling comes from the reference check, or
from the order check after the reference check passed, of a graph made of the described
tasks' entries. -/
theorem assemble_check_error {cal : Calendar} {specs : List TaskSpec} {t : String}
    {err : WorkflowError} (h : assemble cal specs t = .error err) (hc : err.isCheck = true) :
    ∃ G m, EntriesOf G specs m ∧
      (G.checkReferences = .error err ∨
        (G.checkReferences = .ok () ∧ G.checkOrder = .error err)) := by
  unfold assemble at h
  -- the readers before the checks stop with configuration errors only
  rcases error_of_bind_error h with h | ⟨sched, -, h⟩
  · exact absurd hc (Config.schedulerOf_avoids _ err h)
  rcases error_of_bind_error h with h | ⟨settings, -, h⟩
  · exact absurd hc (settingsOf_avoids _ err h)
  rcases error_of_bind_error h with h | ⟨bindings, -, h⟩
  · exact absurd hc (bindingsOf_avoids _ err h)
  rcases error_of_bind_error h with h | ⟨entries, hes, h⟩
  · exact absurd hc (avoids_mapM (fun _ _ => avoids_bind (Resources.resolve_avoids _ _ _ _)
      fun _ _ => avoids_pure _) err h)
  rcases error_of_bind_error h with h | ⟨u, -, h⟩
  · obtain ⟨G, hG, h⟩ : ∃ G : Graph, G.groups = groupEntries entries ∧ G.validate = .error err :=
      ⟨_, rfl, h⟩
    refine ⟨G, settings.maxTries, entriesOf_groupEntries hes hG, ?_⟩
    -- of the four checks, only the reference and order checks report such errors
    unfold validate at h
    rcases error_of_bind_error h with h | ⟨-, -, h⟩
    · exact absurd hc (checkBindings_avoids _ err h)
    rcases error_of_bind_error h with h | ⟨⟨⟩, hr, h⟩
    · exact Or.inl h
    rcases error_of_bind_error h with h | ⟨-, -, h⟩
    · exact absurd hc (checkPlaceholders_avoids _ err h)
    exact Or.inr ⟨hr, h⟩
  · cases h

/-- An assembled graph holds the entries of the described tasks, has a group exactly for the
groups of the described tasks, and lists the running cadences of the calendar. -/
theorem assemble_ok {cal : Calendar} {specs : List TaskSpec} {t : String} {G : Graph}
    (h : assemble cal specs t = .ok G) :
    ∃ m, EntriesOf G specs m ∧
      (∀ g, (∃ grp ∈ G.groups, grp.group = g) ↔ ∃ s ∈ specs, s.group = g) ∧
      G.cadences = cal.cadences.filter (·.valid) := by
  unfold assemble at h
  obtain ⟨sched, -, h⟩ := exists_ok_of_bind_ok h
  obtain ⟨settings, -, h⟩ := exists_ok_of_bind_ok h
  obtain ⟨bindings, -, h⟩ := exists_ok_of_bind_ok h
  obtain ⟨entries, hes, h⟩ := exists_ok_of_bind_ok h
  obtain ⟨u, -, h⟩ := exists_ok_of_bind_ok h
  obtain rfl := Except.ok.inj h
  obtain ⟨hmade, hall⟩ := mem_entries_of_mapM hes
  refine ⟨settings.maxTries, entriesOf_groupEntries hes rfl, fun g => ?_, rfl⟩
  rw [exists_group_groupEntries]
  constructor
  · rintro ⟨x, hx⟩
    obtain ⟨s, hs, r, rfl, -⟩ := hmade g x hx
    exact ⟨s, hs, rfl⟩
  · rintro ⟨s, hs, rfl⟩
    obtain ⟨r, hr⟩ := hall s hs
    exact ⟨_, hr⟩

end Graph

end CycledWorkflow
