import CycledWorkflow.Proofs.Graph.Assembly
import CycledWorkflow.Proofs.Graph.LoopFound
import CycledWorkflow.Proofs.Graph.Placeholders
import CycledWorkflow.Proofs.Graph.Precedence
/-!
# What the check of a graph decides

The check of a workflow graph runs four checks in turn and passes exactly when the graph is
`Valid`: every placeholder of a binding is a cycle field or a binding, every task or metatask
condition names an entry of its kind, every placeholder in an entry's texts is one the entry
may use, and the same-cycle waits between entries form no loop. Each check passes exactly
when its condition holds, so a graph that breaks several is reported by the first of them in
that order.

The order check decides its condition through the loop search, which reports a loop exactly
when there is one (`Precedence.loopNode?_eq_none_iff`); the graph it searches has for edges
exactly the same-cycle waits (`Precedence.edge_precedence_iff`), which may name a task or a
metatask alike.

Main statement: `validate_decides_its_checks`.
-/

namespace CycledWorkflow

open Relation

namespace Graph

/-- Every placeholder of a binding is a cycle field or a binding. -/
def BindingsKnown (G : Graph) : Prop :=
  ∀ x ∈ G.bindings, ∀ p ∈ Template.placeholders x.2, p ∈ Template.cycleFields ∨ p ∈ G.bindingNames

/-- Every placeholder in the texts of an entry is one the entry may use: a cycle field, a
binding, or a variable of its metatask. -/
def PlaceholdersKnown (G : Graph) : Prop :=
  ∀ x ∈ G.entries, TaskNode.placeholders x.node ⊆ G.allowedPlaceholders x

/-- The entry named `b` waits within the cycle for the entry named `a`. -/
def WaitsWithinCycle (G : Graph) (a b : String) : Prop :=
  ∃ x ∈ G.entries, x.name = b ∧ x.WaitsWithinCycle a

/-- What the check of a graph asks of it. -/
structure Valid (G : Graph) : Prop where
  bindings : G.BindingsKnown
  references : ReferencesKnown G.entries
  placeholders : G.PlaceholdersKnown
  acyclic : ∀ n, ¬TransGen G.WaitsWithinCycle n n

variable {G : Graph}

/-! ### Each check decides its condition -/

theorem checkBindings_eq_ok_iff : G.checkBindings = .ok () ↔ G.BindingsKnown := by
  refine ⟨fun h => ?_, checkBindings_eq_ok⟩
  unfold checkBindings at h
  cases hu : unknownInBindings G.bindings with
  | some np => simp [hu] at h
  | none =>
    unfold unknownInBindings at hu
    intro x hx p hp
    have hx' := List.findSome?_eq_none_iff.mp hu x hx
    rw [Option.map_eq_none_iff, List.find?_eq_none] at hx'
    exact or_iff_not_imp_left.mpr (by simpa [bindingNames] using hx' p hp)

theorem checkPlaceholders_eq_ok_iff : G.checkPlaceholders = .ok () ↔ G.PlaceholdersKnown := by
  refine ⟨fun h => ?_, checkPlaceholders_eq_ok⟩
  unfold checkPlaceholders at h
  cases hu : G.entries.findSome? (fun e => (G.unknownPlaceholder e).map (e.name, ·)) with
  | some r => simp [hu] at h
  | none =>
    intro x hx p hp
    have hx' := List.findSome?_eq_none_iff.mp hu x hx
    rw [Option.map_eq_none_iff] at hx'
    unfold unknownPlaceholder at hx'
    -- the placeholder comes from one of the texts the check reads
    obtain ⟨t, ht, hpt⟩ := List.mem_flatMap.mp hp
    have ht' := List.findSome?_eq_none_iff.mp hx' t ht
    rw [Option.map_eq_none_iff, List.find?_eq_none] at ht'
    simpa using ht' p hpt

theorem checkReferences_eq_ok_iff : G.checkReferences = .ok () ↔ ReferencesKnown G.entries := by
  refine ⟨fun h => ?_, checkReferences_eq_ok⟩
  unfold checkReferences at h
  dsimp only at h
  split at h
  · cases h
  · next hu =>
    intro e he leaf hleaf
    have he' := List.findSome?_eq_none_iff.mp hu e he
    rw [Option.map_eq_none_iff] at he'
    unfold unknownReference at he'
    cases hd : e.node.dependency with
    | none => simp [hd] at hleaf
    | some d =>
      rw [hd] at he' hleaf
      have hl := List.findSome?_eq_none_iff.mp he' leaf (by simpa using hleaf)
      -- a condition's name is among the entries of its kind, else the check names it
      constructor
      · rintro r o rfl
        simpa [Predicate.reference, Predicate.isMetatask] using hl
      · rintro r o rfl
        simpa [Predicate.reference, Predicate.isMetatask] using hl


/-- The edges of the order check's graph are the same-cycle waits between entries. -/
theorem edge_precedence_eq (G : Graph) : (precedence G.entries).Edge = G.WaitsWithinCycle := by
  funext a b
  exact propext Precedence.edge_precedence_iff

theorem checkOrder_eq_ok_iff : G.checkOrder = .ok () ↔ ∀ n, ¬TransGen G.WaitsWithinCycle n n := by
  rw [← edge_precedence_eq, ← Precedence.loopNode?_eq_none_iff (Precedence.sound_precedence _)]
  unfold checkOrder
  cases (precedence G.entries).loopNode? <;> simp

/-! ### The checks in turn -/

/-- A check that passes hands over to the next. -/
theorem ok_bind_of_eq_ok {x : Outcome Unit} (h : x = .ok ()) (y : Outcome Unit) :
    (x >>= fun _ => y) = y := by
  rw [h]
  rfl

/-- A check that fails stops the run with its own error. -/
theorem bind_eq_self_of_ne_ok {x : Outcome Unit} (h : x ≠ .ok ()) (y : Outcome Unit) :
    (x >>= fun _ => y) = x := by
  cases x with
  | error err => rfl
  | ok u => exact absurd rfl h

open Classical in
/-- **The check of a graph decides exactly its four conditions**, and a graph that breaks
several is reported by the check of the first: its bindings, then its references, then its
placeholders, then the order of its same-cycle waits. -/
theorem validate_decides_its_checks (G : Graph) :
    (G.validate = .ok () ↔ G.Valid) ∧
    G.validate =
      if G.BindingsKnown then
        if ReferencesKnown G.entries then
          if G.PlaceholdersKnown then G.checkOrder else G.checkPlaceholders
        else G.checkReferences
      else G.checkBindings := by
  have hvalid : G.validate = .ok () ↔ G.Valid := by
    unfold validate
    constructor
    · intro h
      obtain ⟨⟨⟩, hb, h⟩ := exists_ok_of_bind_ok h
      obtain ⟨⟨⟩, hr, h⟩ := exists_ok_of_bind_ok h
      obtain ⟨⟨⟩, hp, ho⟩ := exists_ok_of_bind_ok h
      exact ⟨checkBindings_eq_ok_iff.mp hb, checkReferences_eq_ok_iff.mp hr,
        checkPlaceholders_eq_ok_iff.mp hp, checkOrder_eq_ok_iff.mp ho⟩
    · rintro ⟨hb, hr, hp, ho⟩
      rw [ok_bind_of_eq_ok (checkBindings_eq_ok_iff.mpr hb),
        ok_bind_of_eq_ok (checkReferences_eq_ok_iff.mpr hr),
        ok_bind_of_eq_ok (checkPlaceholders_eq_ok_iff.mpr hp)]
      exact checkOrder_eq_ok_iff.mpr ho
  refine ⟨hvalid, ?_⟩
  unfold validate
  by_cases hb : G.BindingsKnown
  · rw [if_pos hb, ok_bind_of_eq_ok (checkBindings_eq_ok_iff.mpr hb)]
    by_cases hr : ReferencesKnown G.entries
    · rw [if_pos hr, ok_bind_of_eq_ok (checkReferences_eq_ok_iff.mpr hr)]
      by_cases hp : G.PlaceholdersKnown
      · rw [if_pos hp, ok_bind_of_eq_ok (checkPlaceholders_eq_ok_iff.mpr hp)]
      · rw [if_neg hp, bind_eq_self_of_ne_ok (mt checkPlaceholders_eq_ok_iff.mp hp)]
    · rw [if_neg hr, bind_eq_self_of_ne_ok (mt checkReferences_eq_ok_iff.mp hr)]
  · rw [if_neg hb, bind_eq_self_of_ne_ok (mt checkBindings_eq_ok_iff.mp hb)]

end Graph

end CycledWorkflow
