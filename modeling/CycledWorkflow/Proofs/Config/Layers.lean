import CycledWorkflow.Proofs.Calendar.Derived
/-!
# Layered task scopes

A scope keeps its keys in increasing order, each once (`Scope.sorted`), so a scope is known by
the values of its keys (`Scope.ext_get?`).

Merging writes every key of an overlay, so a key reads its value in the overlay, else its value
before (`get?_merge`). Merging is therefore associative, with the empty scope as its identity
on both sides.

The scope a task sees layers the sections it names over the base, in the order of the names,
and passes over names of no section (`Experiment.layers`). A key reads its value in the last
named section that exists and has the key, else in the base (`get?_taskScope`); the keys are
those of the base and of the named sections; and the list of names may be split anywhere: the
scope of the whole is the scope of the first part with the sections of the second part, layered
on their own, merged over it (`taskScope_append`).

Main statement: `taskScope_layers_sections`.
-/

namespace CycledWorkflow

namespace Config.Scope

/-- Among entries with distinct keys, a key reads the value it is entered with. -/
theorem lookup_eq_some_iff_mem {es : List (String × Value)} (h : es.Pairwise fun a b => a.1 ≠ b.1)
    {k : String} {v : Value} : es.lookup k = some v ↔ (k, v) ∈ es := by
  constructor
  · intro hl
    obtain ⟨l₁, l₂, rfl, -⟩ := List.lookup_eq_some_iff.mp hl
    simp
  · intro hm
    induction es with
    | nil => cases hm
    | cons e rest ih =>
      obtain ⟨k', v'⟩ := e
      obtain ⟨hne, hrest⟩ := List.pairwise_cons.mp h
      rcases List.mem_cons.mp hm with he | hr
      · obtain ⟨rfl, rfl⟩ := Prod.mk.inj he
        simp
      · -- the first entry has another key, so the key is found further on
        have hk : (k == k') = false := beq_eq_false_iff_ne.mpr fun hk => hne (k, v) hr hk.symm
        simp [List.lookup_cons, hk, ih hrest hr]

/-- Among entries with distinct keys, the order of the entries does not change what a key
reads. -/
theorem lookup_reverse {es : List (String × Value)} (h : es.Pairwise fun a b => a.1 ≠ b.1)
    (k : String) : es.reverse.lookup k = es.lookup k := by
  have hr : es.reverse.Pairwise fun a b => a.1 ≠ b.1 := List.pairwise_reverse.mpr (h.imp Ne.symm)
  ext v
  rw [lookup_eq_some_iff_mem hr, lookup_eq_some_iff_mem h, List.mem_reverse]

/-- No key of a scope is entered twice. -/
theorem distinct (s : Scope) : s.entries.Pairwise fun a b => a.1 ≠ b.1 :=
  s.sorted.imp String.ne_of_lt

theorem nodup_entries (s : Scope) : s.entries.Nodup :=
  s.distinct.imp fun hne he => hne (congrArg Prod.fst he)

/-- Scopes with the same value for every key are the same scope. -/
theorem ext_get? {a b : Scope} (h : ∀ k, a.get? k = b.get? k) : a = b := by
  have hmem : ∀ e, e ∈ a.entries ↔ e ∈ b.entries := fun ⟨k, v⟩ => by
    rw [← lookup_eq_some_iff_mem a.distinct, ← lookup_eq_some_iff_mem b.distinct]
    exact Eq.to_iff (congrArg (· = some v) (h k))
  -- the same entries, each in increasing order of its key, are the same list
  have hperm : a.entries.Perm b.entries :=
    (List.perm_ext_iff_of_nodup a.nodup_entries b.nodup_entries).mpr hmem
  have heq : a.entries = b.entries :=
    hperm.eq_of_pairwise (fun x y _ _ hxy hyx => absurd (String.lt_trans hxy hyx)
      (String.lt_irrefl _)) a.sorted b.sorted
  cases a
  cases b
  simpa only [Scope.mk.injEq] using heq

/-- After a merge a key reads its value in the overlay, else its value before. -/
theorem get?_merge (s o : Scope) (k : String) : (s.merge o).get? k = (o.get? k).or (s.get? k) := by
  rw [merge, get?_extend, lookup_reverse o.distinct]
  rfl

theorem merge_assoc (a b c : Scope) : (a.merge b).merge c = a.merge (b.merge c) :=
  ext_get? fun k => by
    rw [get?_merge (a.merge b), get?_merge a b, get?_merge a (b.merge c), get?_merge b c,
      Option.or_assoc]

theorem merge_empty (s : Scope) : s.merge empty = s := rfl

theorem empty_merge (s : Scope) : empty.merge s = s :=
  ext_get? fun k => by
    rw [get?_merge]
    exact Option.or_none

/-- Merging overlays one after another is merging, over the scope before, the overlays merged
one after another over nothing. -/
theorem foldl_merge_eq (s : Scope) (os : List Scope) :
    os.foldl merge s = s.merge (os.foldl merge empty) := by
  induction os generalizing s with
  | nil => rfl
  | cons o os ih =>
    rw [List.foldl_cons, List.foldl_cons, ih (s.merge o), empty_merge, ih o, merge_assoc]

/-- Merging overlays one after another, a key reads its value in the last overlay that has it,
else its value before. -/
theorem get?_foldl_merge (os : List Scope) (s : Scope) (k : String) :
    (os.foldl merge s).get? k = (os.reverse.findSome? fun o => o.get? k).or (s.get? k) := by
  induction os generalizing s with
  | nil => rfl
  | cons o os ih =>
    rw [List.foldl_cons, ih, get?_merge, List.reverse_cons, List.findSome?_append,
      List.findSome?_singleton, Option.or_assoc]

end Config.Scope

namespace Experiment

open Config (Scope)

/-- The sections a list of names selects, in the order of the names; a name of no section
selects nothing. -/
def layers (e : Experiment) (names : List String) : List Scope :=
  names.filterMap fun n => e.sections.lookup n

/-- The scope a task sees is the sections it selects merged over the base, one after
another. -/
theorem taskScope_eq_foldl (e : Experiment) (names : List String) :
    e.taskScope names = (e.layers names).foldl Scope.merge e.base := by
  rw [layers, List.foldl_filterMap, taskScope]
  congr 1
  funext acc n
  cases e.sections.lookup n <;> rfl

variable (e : Experiment)

/-- A key of a task scope reads its value in the last selected section that has the key,
else its value in the base. -/
theorem get?_taskScope (names : List String) (k : String) :
    (e.taskScope names).get? k =
      ((e.layers names).reverse.findSome? fun o => o.get? k).or (e.base.get? k) := by
  rw [taskScope_eq_foldl, Scope.get?_foldl_merge]

/-- The keys of a task scope are those of the base and of the sections it names. -/
theorem contains_taskScope (names : List String) (k : String) :
    (e.taskScope names).contains k ↔
      e.base.contains k ∨ ∃ n ∈ names, ∃ o, e.sections.lookup n = some o ∧ o.contains k := by
  simp only [Scope.contains, get?_taskScope, Option.isSome_or, Bool.or_eq_true,
    List.findSome?_isSome_iff, List.mem_reverse, layers, List.mem_filterMap]
  rw [or_comm]
  refine or_congr Iff.rfl ⟨?_, ?_⟩
  · rintro ⟨o, ⟨n, hn, ho⟩, hk⟩
    exact ⟨n, hn, o, ho, hk⟩
  · rintro ⟨n, hn, o, ho, hk⟩
    exact ⟨o, ⟨n, hn, ho⟩, hk⟩

/-- Names of no section are passed over. -/
theorem taskScope_filter_sections (names : List String) :
    e.taskScope (names.filter fun n => (e.sections.lookup n).isSome) = e.taskScope names := by
  rw [taskScope_eq_foldl, taskScope_eq_foldl, layers, layers, List.filterMap_filter]
  congr 2
  funext n
  cases e.sections.lookup n <;> rfl

/-- The names of a task scope may be split anywhere: the sections of the second part, merged
one after another over nothing, are merged over the scope of the first part. -/
theorem taskScope_append (l₁ l₂ : List String) :
    e.taskScope (l₁ ++ l₂) = (e.taskScope l₁).merge ((e.withBase Scope.empty).taskScope l₂) := by
  have hl : (e.withBase Scope.empty).layers l₂ = e.layers l₂ := rfl
  rw [taskScope_eq_foldl, taskScope_eq_foldl, taskScope_eq_foldl, hl, layers,
    List.filterMap_append, List.foldl_append, ← layers, ← layers]
  exact Scope.foldl_merge_eq _ _

/-- The scope a task sees. A key reads its value in the last section named that exists and has
the key, else its value in the base; the keys are those of the base and of the sections named
that exist; names of no section are passed over; and the names may be split anywhere, the
sections after the split merged on their own and over the scope of those before it, since
merging is associative with the empty scope as its identity. -/
theorem taskScope_layers_sections (names : List String) :
    (∀ k, (e.taskScope names).get? k =
      ((e.layers names).reverse.findSome? fun o => o.get? k).or (e.base.get? k)) ∧
    (∀ k, (e.taskScope names).contains k ↔
      e.base.contains k ∨ ∃ n ∈ names, ∃ o, e.sections.lookup n = some o ∧ o.contains k) ∧
    e.taskScope (names.filter fun n => (e.sections.lookup n).isSome) = e.taskScope names ∧
    (∀ l₁ l₂, e.taskScope (l₁ ++ l₂) =
      (e.taskScope l₁).merge ((e.withBase Scope.empty).taskScope l₂)) ∧
    (∀ a b c : Scope, (a.merge b).merge c = a.merge (b.merge c)) ∧
    ∀ a : Scope, Scope.empty.merge a = a ∧ a.merge Scope.empty = a :=
  ⟨get?_taskScope e names, contains_taskScope e names, taskScope_filter_sections e names,
    taskScope_append e, Scope.merge_assoc, fun a => ⟨Scope.empty_merge a, Scope.merge_empty a⟩⟩

/-- An experiment with a base and two sections that both set one key. -/
def layeredSample : Experiment where
  mode := .cycled
  base := Scope.ofList [("QUEUE", .text "batch"), ("wtime_efcs", .text "base")]
  sections := [("efcs", Scope.ofList [("wtime_efcs", .text "efcs")]),
    ("fcst", Scope.ofList [("wtime_efcs", .text "fcst"), ("npe_efcs", .text "40")])]
  sdate := ⟨0⟩
  edate := ⟨0⟩

-- named `fcst` then `efcs`: the key both set reads `efcs`, the key only `fcst` sets reads its
-- value there, and the base gives the rest
example : (layeredSample.taskScope ["fcst", "efcs"]).get? "wtime_efcs" = some (.text "efcs") ∧
    (layeredSample.taskScope ["fcst", "efcs"]).get? "npe_efcs" = some (.text "40") ∧
    (layeredSample.taskScope ["fcst", "efcs"]).get? "QUEUE" = some (.text "batch") := by
  decide

end Experiment

end CycledWorkflow
