import CycledWorkflow.Proofs.Catalog.Closure
import CycledWorkflow.Proofs.Graph.Precedence
/-!
# Same-cycle waits of a catalog form no loop

Within one cycle a returned description may wait only for kinds of task that come earlier in
one fixed order of the kinds (`TaskKind.sameCycleOrder`), whatever the mode and the switches:
the rules that refer back to later kinds (the ensemble update to the ensemble observer, the
surface analysis to the previous cycle's post-processing) do so across a cycle. Entry names
determine group and kind, so along any chain of same-cycle waits the rank of the kinds goes
up, and no chain returns to where it started.

On the graph side, the edges of the order check's graph are exactly these waits, so
assembling the catalog's own output never reports a loop.

Main statement: `catalog_same_cycle_acyclic`.
-/

namespace CycledWorkflow

open Relation

/-- The returned descriptions make the entry named `b` wait within the cycle for the entry
named `a`: a task or metatask condition of the description of `b` refers to `a` with no
offset or a zero one. -/
def WaitsWithinCycle (specs : List TaskSpec) (a b : String) : Prop :=
  ∃ s ∈ specs, s.entryName = b ∧
    ∃ p ∈ s.leaves, ∃ o, p.reference = some (a, o) ∧ Graph.sameCycle o = true

/-- A relation between entry names along which the same-cycle rank of the kinds goes up. -/
def RaisesRank (R : String → String → Prop) : Prop :=
  ∀ a b, R a b → ∃ g k g' k', a = entryName g k ∧ b = entryName g' k' ∧
    k.sameCycleRank < k'.sameCycleRank

/-- Along a chain of steps that raise the rank, the rank goes up. -/
theorem RaisesRank.transGen {R : String → String → Prop} (hR : RaisesRank R) :
    RaisesRank (TransGen R) := by
  intro a b h
  induction h with
  | single hab => exact hR _ _ hab
  | @tail b c _ hbc ih =>
    obtain ⟨g, k, g', k', rfl, rfl, hlt⟩ := ih
    obtain ⟨g₁, k₁, g₂, k₂, hb, rfl, hlt'⟩ := hR _ _ hbc
    -- the middle name determines its kind
    obtain ⟨rfl, rfl⟩ := entryName_inj hb
    exact ⟨g, k, g₂, k₂, rfl, rfl, Nat.lt_trans hlt hlt'⟩

/-- A relation that raises the rank has no loop. -/
theorem RaisesRank.not_transGen_self {R : String → String → Prop} (hR : RaisesRank R)
    (n : String) : ¬TransGen R n n := by
  intro h
  obtain ⟨g, k, g', k', rfl, h, hlt⟩ := hR.transGen _ _ h
  obtain ⟨-, rfl⟩ := entryName_inj h
  exact Nat.lt_irrefl _ hlt

/-- A condition that resolves in a plan and waits within the cycle names the entry of an
earlier kind. -/
theorem ResolvesIn.rank_lt {p : TaskPlan} {t : TaskKind} {q : Predicate} (h : ResolvesIn p t q)
    {a : String} {o : Option Span} (hr : q.reference = some (a, o))
    (hs : Graph.sameCycle o = true) :
    ∃ g k, a = entryName g k ∧ k.sameCycleRank < t.sameCycleRank := by
  cases q with
  | task r o' =>
    obtain ⟨rfl, rfl⟩ := Prod.mk.inj (Option.some.inj hr)
    obtain ⟨g, k, rfl, hf, -, hlt⟩ := h
    exact ⟨g, k, (entryName_of_not_fanned g hf).symm, hlt hs⟩
  | metatask r o' =>
    obtain ⟨rfl, rfl⟩ := Prod.mk.inj (Option.some.inj hr)
    obtain ⟨g, k, rfl, -, -, hlt⟩ := h
    exact ⟨g, k, rfl, hlt hs⟩
  | data c => cases hr
  | cycleExists d negate => cases hr
  | strEq l r => cases hr

namespace Catalog

variable {e : Experiment} {cal : Calendar} {cat : Catalog} {specs : List TaskSpec}

/-- The same-cycle waits among the returned descriptions raise the rank. -/
theorem raisesRank_waitsWithinCycle (hd : Calendar.derive e = .ok cal)
    (hc : ofCalendar cal = .ok cat) (hb : cat.build = .ok specs) :
    RaisesRank (WaitsWithinCycle specs) := by
  rintro a b ⟨s, hs, rfl, q, hq, o, hr, hsc⟩
  obtain ⟨g, ts, hg, t, ht, hdesc, -⟩ := mem_build hb hs
  have hres := describe_resolves hd hc (contains_of_mem_groups hg ht) hdesc q hq
  obtain ⟨g', k, rfl, hlt⟩ := hres.rank_lt hr hsc
  exact ⟨g', k, g, t, rfl, (describe_names hdesc).entryName, hlt⟩

end Catalog

/-- The same-cycle waits between entries made of descriptions are waits among the
descriptions. -/
theorem Graph.EntriesOf.waitsWithinCycle {G : Graph} {specs : List TaskSpec} {m : Nat}
    (hE : G.EntriesOf specs m) {a b : String}
    (h : ∃ x ∈ G.entries, x.name = b ∧ x.WaitsWithinCycle a) : WaitsWithinCycle specs a b := by
  obtain ⟨x, hx, rfl, d, hd, o, ho, hs⟩ := h
  obtain ⟨s, hs', r, rfl⟩ := hE.described x hx
  rw [Graph.dependency_entryOf] at hd
  obtain ⟨q, hq, hr⟩ := List.mem_filterMap.mp ho
  refine ⟨s, hs', (Graph.name_entryOf s r m).symm, q, ?_, o, hr, hs⟩
  rw [TaskSpec.leaves, hd]
  exact hq

namespace Catalog

variable {e : Experiment} {cal : Calendar} {cat : Catalog} {specs : List TaskSpec}

/-- **Same-cycle waits form no loop.** For every experiment whose catalog builds, the
same-cycle waits among the returned descriptions, over their entry names, have no loop (and so
no entry waits for itself), and assembling the returned descriptions into a graph never
reports a dependency loop. -/
theorem catalog_same_cycle_acyclic (hd : Calendar.derive e = .ok cal)
    (hc : ofCalendar cal = .ok cat) (hb : cat.build = .ok specs) :
    (∀ n, ¬TransGen (WaitsWithinCycle specs) n n) ∧
    ∀ generatedAt msg, Graph.assemble cal specs generatedAt ≠ .error (.dependencyCycle msg) := by
  have hacyc := (raisesRank_waitsWithinCycle hd hc hb).not_transGen_self
  refine ⟨hacyc, fun generatedAt msg h => ?_⟩
  obtain ⟨G, m, hE, hG⟩ := Graph.assemble_check_error h rfl
  -- the reference check reports unknown references only, and the order check passes
  rcases hG with hG | ⟨-, hG⟩
  · obtain ⟨task, r, hr⟩ := Graph.checkReferences_error hG
    cases hr
  · have hok : G.checkOrder = .ok () := Graph.checkOrder_eq_ok fun n hn =>
      hacyc n (TransGen.mono (fun _ _ hab => hE.waitsWithinCycle hab) n n hn)
    rw [hok] at hG
    cases hG

theorem omfSample_same_cycle_acyclic : ∃ cal cat specs, Calendar.derive omfSample = .ok cal ∧
    ofCalendar cal = .ok cat ∧ cat.build = .ok specs ∧
    (∀ n, ¬TransGen (WaitsWithinCycle specs) n n) ∧
    ∀ generatedAt msg, Graph.assemble cal specs generatedAt ≠ .error (.dependencyCycle msg) :=
  ⟨_, _, _, rfl, rfl, rfl, @catalog_same_cycle_acyclic omfSample _ _ _ rfl rfl rfl⟩

end Catalog

end CycledWorkflow
