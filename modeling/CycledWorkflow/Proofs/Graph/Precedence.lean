import CycledWorkflow.Graph.Validate
import CycledWorkflow.Proofs.Graph.LoopSearch
/-!
# The same-cycle precedence graph of a list of entries

The order check builds its graph in two folds over the entries: first a node for each entry
name, then, for each entry, an edge from every entry it waits for within the cycle. Every
step keeps the graph *well linked*: nodes listed once with one entry of links each, edges
between nodes, and the links of a node exactly those its edges make, in the order they were
made. A well-linked graph is sound, so the loop search applies to it.

The edges of the graph are exactly the same-cycle references of the entries, so the order
check passes whenever those references form no loop (`checkOrder_eq_ok`).

Main statements: `sound_precedence`, `edge_precedence_iff` and `checkOrder_eq_ok`.
-/

namespace CycledWorkflow

open Relation

/-- An entry waits within the cycle for the entry named `a`: a condition of its dependency
refers to `a` with no offset or a zero one. -/
def Entry.WaitsWithinCycle (x : Entry) (a : String) : Prop :=
  ∃ d, x.node.dependency = some d ∧ ∃ o, (a, o) ∈ d.references ∧ Graph.sameCycle o = true

namespace Precedence

/-! ### Links -/

/-- The link an edge makes at a node: to its target, outgoing, at its source; otherwise to its
source, incoming, at its target. -/
def linkAt (x : String) (e : String × String) : Option (String × Bool) :=
  if e.1 = x then some (e.2, true) else if e.2 = x then some (e.1, false) else none

/-- The links a list of link entries holds for a node. -/
def linksIn (ls : List (String × List (String × Bool))) (x : String) : List (String × Bool) :=
  ((ls.find? (·.1 == x)).map (·.2)).getD []

theorem linksOf_eq_linksIn (p : Precedence) (x : String) : p.linksOf x = linksIn p.links x := rfl

section Links

variable {ls : List (String × List (String × Bool))} {n x : String} {l : String × Bool}

@[simp] theorem keys_appendLink : (appendLink n l ls).map Prod.fst = ls.map Prod.fst := by
  induction ls with
  | nil => rfl
  | cons e ls ih =>
    unfold appendLink
    split <;> simp [*]

theorem linksIn_appendLink_of_ne (h : x ≠ n) : linksIn (appendLink n l ls) x = linksIn ls x := by
  induction ls with
  | nil => rfl
  | cons e ls ih =>
    obtain ⟨m, ms⟩ := e
    unfold linksIn at ih ⊢
    by_cases hm : m = n
    · subst hm
      simp [appendLink, Ne.symm h]
    · by_cases hx : m = x
      · subst hx
        simp [appendLink, hm]
      · simp [appendLink, hm, hx, ih]

/-- A link added at a node with an entry comes last among its links. -/
theorem linksIn_appendLink_self (h : n ∈ ls.map Prod.fst) :
    linksIn (appendLink n l ls) n = linksIn ls n ++ [l] := by
  induction ls with
  | nil => simp at h
  | cons e ls ih =>
    obtain ⟨m, ms⟩ := e
    unfold linksIn at ih ⊢
    by_cases hm : m = n
    · subst hm
      simp [appendLink]
    · have h' : n ∈ ls.map Prod.fst := by simpa [Ne.symm hm] using h
      simp [appendLink, hm, ih h']

/-- A new entry at the end hides no links. -/
theorem linksIn_append_nil (ls : List (String × List (String × Bool))) (n x : String) :
    linksIn (ls ++ [(n, [])]) x = linksIn ls x := by
  unfold linksIn
  rw [List.find?_append]
  cases ls.find? (·.1 == x) with
  | some e => rfl
  | none =>
    by_cases hx : n = x <;> simp [hx]

end Links

/-- The outgoing ends of the links an edge list makes at a node are the targets of its edges
from that node. -/
theorem outgoing_eq_of_linksOf {p : Precedence} {x : String} {es : List (String × String)}
    (h : p.linksOf x = es.filterMap (linkAt x)) :
    p.outgoing x = (es.filter (·.1 == x)).map (·.2) := by
  unfold outgoing
  rw [h, List.filterMap_filterMap]
  -- an edge makes an outgoing link exactly at its source
  refine (List.filterMap_congr (g := fun e => if e.1 = x then some e.2 else none) ?_).trans ?_
  · rintro ⟨a, b⟩ -
    by_cases h1 : a = x <;> by_cases h2 : b = x <;> simp [linkAt, h1, h2]
  · clear h
    induction es with
    | nil => rfl
    | cons e es ih => by_cases h1 : e.1 = x <;> simp [h1, ih]

/-- The incoming ends of the links an edge list makes at a node are the sources of its edges
into that node; an edge from the node to itself counts once, as an outgoing link. -/
theorem incoming_eq_of_linksOf {p : Precedence} {x : String} {es : List (String × String)}
    (h : p.linksOf x = es.filterMap (linkAt x)) :
    p.incoming x = (es.filter (·.2 == x)).map (·.1) := by
  unfold incoming
  rw [h, List.filterMap_filterMap]
  -- an edge makes an incoming link at its target, or an outgoing one there if it is a loop
  refine (List.filterMap_congr (g := fun e => if e.2 = x then some e.1 else none) ?_).trans ?_
  · rintro ⟨a, b⟩ -
    by_cases h1 : a = x <;> by_cases h2 : b = x
    · subst h1 h2
      simp [linkAt]
    all_goals simp [linkAt, h1, h2]
  · clear h
    induction es with
    | nil => rfl
    | cons e es ih => by_cases h2 : e.2 = x <;> simp [h2, ih]

/-! ### Well-linked graphs -/

/-- How the graph is built: nodes listed once with one entry of links each, edges between
nodes, and the links of each node those its edges make, in the order the edges were made. -/
structure WellLinked (p : Precedence) : Prop where
  nodes_nodup : p.nodes.Nodup
  keys : p.links.map Prod.fst = p.nodes
  edge_mem : ∀ a b, (a, b) ∈ p.edges → a ∈ p.nodes ∧ b ∈ p.nodes
  linksOf_eq : ∀ x, p.linksOf x = p.edges.filterMap (linkAt x)

theorem WellLinked.sound {p : Precedence} (h : p.WellLinked) : p.Sound where
  nodes_nodup := h.nodes_nodup
  edge_mem := h.edge_mem
  outgoing_eq x := outgoing_eq_of_linksOf (h.linksOf_eq x)
  incoming_eq x := incoming_eq_of_linksOf (h.linksOf_eq x)

theorem wellLinked_empty : WellLinked {} where
  nodes_nodup := List.nodup_nil
  keys := rfl
  edge_mem := by simp
  linksOf_eq _ := rfl

section Build

variable {p : Precedence} {n a b x : String}

@[simp] theorem edges_addNode : (p.addNode n).edges = p.edges := by
  unfold addNode
  split <;> rfl

theorem mem_nodes_addNode : x ∈ (p.addNode n).nodes ↔ x ∈ p.nodes ∨ x = n := by
  unfold addNode
  split
  · next h =>
    simp only [List.contains_iff_mem] at h
    constructor
    · exact .inl
    · rintro (hx | rfl)
      · exact hx
      · exact h
  · simp

theorem WellLinked.addNode (h : p.WellLinked) : (p.addNode n).WellLinked := by
  unfold Precedence.addNode
  split
  · exact h
  · next hn =>
    simp only [List.contains_iff_mem] at hn
    exact {
      nodes_nodup := by
        rw [← List.concat_eq_append]
        exact List.Nodup.concat hn h.nodes_nodup
      keys := by simp [h.keys]
      edge_mem := fun a b he => by
        obtain ⟨ha, hb⟩ := h.edge_mem a b he
        exact ⟨List.mem_append_left _ ha, List.mem_append_left _ hb⟩
      linksOf_eq := fun x => by
        rw [linksOf_eq_linksIn, linksIn_append_nil, ← linksOf_eq_linksIn]
        exact h.linksOf_eq x }

theorem mem_edges_addEdge {e : String × String} :
    e ∈ (p.addEdge a b).edges ↔ e ∈ p.edges ∨ e = (a, b) := by
  unfold addEdge
  split
  · next h =>
    simp only [List.contains_iff_mem] at h
    constructor
    · exact .inl
    · rintro (he | rfl)
      · exact he
      · exact h
  · simp

/-- Adding an edge keeps the graph well linked: the new edge makes the last link at each of
its ends, once at a node linked to itself. -/
theorem WellLinked.addEdge (h : p.WellLinked) : (p.addEdge a b).WellLinked := by
  unfold Precedence.addEdge
  split
  · exact h
  · -- the graph with both ends as nodes, before the edge is added
    have hq : ((p.addNode a).addNode b).WellLinked := h.addNode.addNode
    have hb : b ∈ ((p.addNode a).addNode b).nodes := mem_nodes_addNode.mpr (.inr rfl)
    have ha : a ∈ ((p.addNode a).addNode b).nodes :=
      mem_nodes_addNode.mpr (.inl (mem_nodes_addNode.mpr (.inr rfl)))
    generalize (p.addNode a).addNode b = q at hq ha hb
    have hka : a ∈ q.links.map Prod.fst := hq.keys ▸ ha
    have hkb : b ∈ q.links.map Prod.fst := hq.keys ▸ hb
    refine ⟨hq.nodes_nodup, ?_, fun u v he => ?_, fun y => ?_⟩
    · split <;> simp [hq.keys]
    · simp only [List.mem_append, List.mem_singleton, Prod.mk.injEq] at he
      rcases he with he | ⟨rfl, rfl⟩
      · exact hq.edge_mem u v he
      · exact ⟨ha, hb⟩
    · rw [linksOf_eq_linksIn, List.filterMap_append, ← hq.linksOf_eq, linksOf_eq_linksIn]
      dsimp only
      -- the links change only at the two ends of the edge
      by_cases hab : a = b
      · subst hab
        rw [if_pos rfl]
        by_cases hy : y = a
        · subst hy
          simp [linksIn_appendLink_self hka, linkAt]
        · simp [linksIn_appendLink_of_ne hy, linkAt, Ne.symm hy]
      · rw [if_neg hab]
        by_cases hya : y = a
        · subst hya
          simp [linksIn_appendLink_of_ne hab, linksIn_appendLink_self hka, linkAt]
        · by_cases hyb : y = b
          · subst hyb
            rw [linksIn_appendLink_self (by simpa using hkb),
              linksIn_appendLink_of_ne (Ne.symm hab)]
            simp [linkAt, hab]
          · simp [linksIn_appendLink_of_ne hya, linksIn_appendLink_of_ne hyb, linkAt,
              Ne.symm hya, Ne.symm hyb]

end Build

/-! ### The graph of a list of entries -/

/-- The edge a same-cycle reference adds into the entry named `n`. -/
def addWait (n : String) (p : Precedence) (ref : String × Option Span) : Precedence :=
  if Graph.sameCycle ref.2 then p.addEdge ref.1 n else p

/-- The edges an entry adds: one from each entry it waits for within the cycle. -/
def addWaits (p : Precedence) (x : Entry) : Precedence :=
  match x.node.dependency with
  | none => p
  | some d => d.references.foldl (addWait x.name) p

theorem precedence_eq (es : List Entry) :
    Graph.precedence es = es.foldl addWaits (es.foldl (fun p x => p.addNode x.name) {}) := rfl

section Edges

variable {n : String} {e : String × String}

theorem mem_edges_foldl_addWait (refs : List (String × Option Span)) (p : Precedence) :
    e ∈ (refs.foldl (addWait n) p).edges ↔
      e ∈ p.edges ∨ (e.2 = n ∧ ∃ o, (e.1, o) ∈ refs ∧ Graph.sameCycle o = true) := by
  induction refs generalizing p with
  | nil => simp
  | cons ref refs ih =>
    obtain ⟨r, o⟩ := ref
    rw [List.foldl_cons, ih, addWait]
    dsimp only
    -- the reference adds its edge exactly when it is within the cycle
    constructor
    · rintro (h | ⟨h2, o', ho', hs⟩)
      · split at h
        · next ho =>
          rcases mem_edges_addEdge.mp h with h | rfl
          · exact .inl h
          · exact .inr ⟨rfl, o, List.mem_cons_self .., ho⟩
        · exact .inl h
      · exact .inr ⟨h2, o', List.mem_cons_of_mem _ ho', hs⟩
    · rintro (h | ⟨h2, o', ho', hs⟩)
      · left
        split
        · exact mem_edges_addEdge.mpr (.inl h)
        · exact h
      · rcases List.mem_cons.mp ho' with heq | ho'
        · obtain ⟨h1, rfl⟩ := Prod.mk.inj heq
          left
          rw [if_pos hs]
          exact mem_edges_addEdge.mpr (.inr (Prod.ext h1 h2))
        · exact .inr ⟨h2, o', ho', hs⟩

theorem mem_edges_addWaits (p : Precedence) (x : Entry) :
    e ∈ (addWaits p x).edges ↔ e ∈ p.edges ∨ (e.2 = x.name ∧ x.WaitsWithinCycle e.1) := by
  unfold addWaits Entry.WaitsWithinCycle
  cases hd : x.node.dependency with
  | none => simp
  | some d => simp [mem_edges_foldl_addWait]

theorem mem_edges_foldl_addWaits (es : List Entry) (p : Precedence) :
    e ∈ (es.foldl addWaits p).edges ↔
      e ∈ p.edges ∨ ∃ x ∈ es, x.name = e.2 ∧ x.WaitsWithinCycle e.1 := by
  induction es generalizing p with
  | nil => simp
  | cons x es ih =>
    rw [List.foldl_cons, ih, mem_edges_addWaits]
    constructor
    · rintro ((h | ⟨h, hw⟩) | ⟨y, hy, h⟩)
      · exact .inl h
      · exact .inr ⟨x, List.mem_cons_self .., h.symm, hw⟩
      · exact .inr ⟨y, List.mem_cons_of_mem x hy, h⟩
    · rintro (h | ⟨y, hy, h⟩)
      · exact .inl (.inl h)
      · rcases List.mem_cons.mp hy with rfl | hy
        · exact .inl (.inr ⟨h.1.symm, h.2⟩)
        · exact .inr ⟨y, hy, h⟩

end Edges

theorem edges_foldl_addNode (es : List Entry) (p : Precedence) :
    (es.foldl (fun p x => p.addNode x.name) p).edges = p.edges := by
  induction es generalizing p with
  | nil => rfl
  | cons x es ih => rw [List.foldl_cons, ih, edges_addNode]

/-- The edges of the precedence graph are the same-cycle references of the entries. -/
theorem edge_precedence_iff {es : List Entry} {a b : String} :
    (Graph.precedence es).Edge a b ↔ ∃ x ∈ es, x.name = b ∧ x.WaitsWithinCycle a := by
  rw [Edge, precedence_eq, mem_edges_foldl_addWaits, edges_foldl_addNode]
  simp

theorem WellLinked.foldl_addWaits {p : Precedence} (h : p.WellLinked) (es : List Entry) :
    (es.foldl addWaits p).WellLinked := by
  induction es generalizing p with
  | nil => exact h
  | cons x es ih =>
    rw [List.foldl_cons]
    refine ih ?_
    unfold addWaits
    split
    · exact h
    · next d _ =>
      -- each reference adds an edge or nothing
      clear ih
      induction d.references generalizing p with
      | nil => exact h
      | cons ref refs ihr =>
        rw [List.foldl_cons]
        refine ihr ?_
        unfold addWait
        split
        · exact h.addEdge
        · exact h

theorem WellLinked.foldl_addNode {p : Precedence} (h : p.WellLinked) (es : List Entry) :
    (es.foldl (fun p x => p.addNode x.name) p).WellLinked := by
  induction es generalizing p with
  | nil => exact h
  | cons x es ih => exact ih h.addNode

/-- The precedence graph of any list of entries is sound. -/
theorem sound_precedence (es : List Entry) : (Graph.precedence es).Sound := by
  rw [precedence_eq]
  exact (wellLinked_empty.foldl_addNode es).foldl_addWaits es |>.sound

end Precedence

namespace Graph

/-- **The order check passes when the same-cycle references form no loop.** -/
theorem checkOrder_eq_ok {G : Graph}
    (h : ∀ n, ¬TransGen (fun a b => ∃ x ∈ G.entries, x.name = b ∧ x.WaitsWithinCycle a) n n) :
    G.checkOrder = .ok () := by
  have hacyc : ∀ n, ¬TransGen (precedence G.entries).Edge n n := by
    intro n hn
    have hle : (precedence G.entries).Edge ≤
        fun a b => ∃ x ∈ G.entries, x.name = b ∧ x.WaitsWithinCycle a :=
      fun a b hab => Precedence.edge_precedence_iff.mp hab
    exact h n (TransGen.mono hle n n hn)
  unfold checkOrder
  rw [Precedence.loopNode?_eq_none (Precedence.sound_precedence G.entries) hacyc]
  rfl

end Graph

end CycledWorkflow
