import CycledWorkflow.Graph.Order
import CycledWorkflow.Proofs.Outcome
import Mathlib.Logic.Relation
import Mathlib.Data.List.Nodup
/-!
# The loop search finds no loop in a graph without one

The same-cycle check runs a two-pass search over the precedence graph: a depth-first search
that lists the nodes in finishing order, then a backward search from each node in reverse
finishing order that reports the first other node it reaches. On a graph whose edges form no
loop, neither pass reports anything (`loopNode?_eq_none`).

The first pass keeps an invariant (`Finishing.Inv`): the finished nodes are listed once, each
after every node it has an edge to, and every node discovered but not finished lies on the
stack below the nodes reachable from it that still have to be searched. A loop-free graph
never lets a search step meet an unfinished node it has an edge to, and every step lowers a
potential bounded by the fuel, so the search ends with every node finished. The second pass
then finds, at each node, every node with an edge into it already searched.

The graphs searched are *sound*: their nodes are listed once, their edges join nodes, and the
links of each node list its outgoing and incoming edges (`Precedence.Sound`).

Main statement: `loopNode?_eq_none`.
-/

namespace CycledWorkflow

open Relation

namespace Precedence

/-- An edge of the graph. -/
def Edge (p : Precedence) (a b : String) : Prop := (a, b) ∈ p.edges

/-- A graph whose nodes are listed once, whose edges join nodes, and whose links give each
node's outgoing and incoming edges in the order the edges were made. -/
structure Sound (p : Precedence) : Prop where
  nodes_nodup : p.nodes.Nodup
  edge_mem : ∀ a b, (a, b) ∈ p.edges → a ∈ p.nodes ∧ b ∈ p.nodes
  outgoing_eq : ∀ x, p.outgoing x = (p.edges.filter (·.1 == x)).map (·.2)
  incoming_eq : ∀ x, p.incoming x = (p.edges.filter (·.2 == x)).map (·.1)

section Sound

variable {p : Precedence}

theorem Sound.mem_outgoing (hp : p.Sound) {x y : String} : y ∈ p.outgoing x ↔ p.Edge x y := by
  rw [hp.outgoing_eq]
  simp only [List.mem_map, List.mem_filter, beq_iff_eq, Edge]
  constructor
  · rintro ⟨⟨a, b⟩, ⟨h, rfl⟩, rfl⟩
    exact h
  · intro h
    exact ⟨(x, y), ⟨h, rfl⟩, rfl⟩

theorem Sound.mem_incoming (hp : p.Sound) {x u : String} : u ∈ p.incoming x ↔ p.Edge u x := by
  rw [hp.incoming_eq]
  simp only [List.mem_map, List.mem_filter, beq_iff_eq, Edge]
  constructor
  · rintro ⟨⟨a, b⟩, ⟨h, rfl⟩, rfl⟩
    exact h
  · intro h
    exact ⟨(u, x), ⟨h, rfl⟩, rfl⟩

theorem Sound.length_outgoing (hp : p.Sound) (x : String) :
    (p.outgoing x).length = (p.edges.filter (·.1 == x)).length := by
  rw [hp.outgoing_eq, List.length_map]

end Sound

/-- Pushing the undiscovered nodes in order puts the last one on top. -/
theorem pushUndiscovered_eq (d ns st : List String) :
    pushUndiscovered d ns st = (ns.filter (!d.contains ·)).reverse ++ st := by
  unfold pushUndiscovered
  induction ns generalizing st with
  | nil => rfl
  | cons m ns ih =>
    rw [List.foldl_cons, ih]
    by_cases hm : m ∈ d <;> simp [hm]

/-! ### Counting what is left to discover -/

/-- Discovering a node leaves one node fewer undiscovered. -/
theorem length_filter_undiscovered {nodes d : List String} {x : String} (hn : nodes.Nodup)
    (hx : x ∈ nodes) (hd : x ∉ d) :
    (nodes.filter (!(d ++ [x]).contains ·)).length + 1 =
      (nodes.filter (!d.contains ·)).length := by
  induction nodes with
  | nil => simp at hx
  | cons y ys ih =>
    rw [List.nodup_cons] at hn
    by_cases hy : y = x
    · subst hy
      have hys : (ys.filter (!(d ++ [y]).contains ·)) = ys.filter (!d.contains ·) := by
        apply List.filter_congr
        intro z hz
        have : z ≠ y := fun h => hn.1 (h ▸ hz)
        simp [this]
      rw [List.filter_cons_of_neg (by simp), List.filter_cons_of_pos (by simp [hd]), hys,
        List.length_cons]
    · have hx' : x ∈ ys := by simpa [Ne.symm hy] using hx
      have := ih hn.2 hx'
      by_cases hyd : y ∈ d <;> simp_all

/-- Discovering a node takes its edges out of the edges with an undiscovered source. -/
theorem length_filter_source (edges : List (String × String)) {d : List String} {x : String}
    (hd : x ∉ d) :
    (edges.filter (!(d ++ [x]).contains ·.1)).length + (edges.filter (·.1 == x)).length =
      (edges.filter (!d.contains ·.1)).length := by
  induction edges with
  | nil => rfl
  | cons e es ih =>
    by_cases hx : e.1 = x
    · simp [hx, hd] at ih ⊢
      omega
    · by_cases he : e.1 ∈ d <;> simp [hx, he] at ih ⊢ <;> omega

/-! ### Orders that list successors first -/

/-- Every node of the list comes after every node its edges lead to. -/
def SuccessorsFirst (p : Precedence) (order : List String) : Prop :=
  ∀ l₁ x l₂, order = l₁ ++ x :: l₂ → ∀ y, p.Edge x y → y ∈ l₁

section SuccessorsFirst

variable {p : Precedence}

theorem successorsFirst_nil (p : Precedence) : SuccessorsFirst p [] := by
  intro l₁ x l₂ h
  simp at h

/-- A node whose successors are all listed may be listed next. -/
theorem SuccessorsFirst.snoc {order : List String} {v : String} (hc : SuccessorsFirst p order)
    (hv : ∀ y, p.Edge v y → y ∈ order) : SuccessorsFirst p (order ++ [v]) := by
  intro l₁ a l₂ h y hy
  rcases List.eq_nil_or_concat l₂ with rfl | ⟨l₂', z, rfl⟩
  · have h' : order ++ [v] = l₁ ++ [a] := by simpa using h
    obtain ⟨rfl, ha⟩ := List.append_inj' h' rfl
    obtain rfl : a = v := by simpa using ha.symm
    exact hv y hy
  · have h' : order ++ [v] = (l₁ ++ a :: l₂') ++ [z] := by simpa using h
    exact hc l₁ a l₂' (List.append_inj' h' rfl).1 y hy

/-- Read backwards, a list with successors first and no repeats meets every edge into a node
after the node it comes from, unless the edge comes from the node itself. -/
theorem SuccessorsFirst.edge_before {order : List String} (hc : SuccessorsFirst p order)
    (hn : order.Nodup) {P R : List String} {i : String} (h : order.reverse = P ++ i :: R)
    {u : String} (hu : u ∈ order) (he : p.Edge u i) : u = i ∨ u ∈ P := by
  have hu' : u ∈ P ++ i :: R := h ▸ List.mem_reverse.mpr hu
  simp only [List.mem_append, List.mem_cons] at hu'
  rcases hu' with hP | rfl | hR
  · exact .inr hP
  · exact .inl rfl
  · -- an edge from later in the reversed list would list `i` twice
    obtain ⟨a, b, rfl⟩ := List.append_of_mem hR
    have horder : order = b.reverse ++ u :: (a.reverse ++ i :: P.reverse) := by
      rw [← List.reverse_reverse order, h]
      simp
    have hi : i ∈ b := List.mem_reverse.mp (hc _ _ _ horder i he)
    have hnd : (P ++ i :: (a ++ u :: b)).Nodup := h ▸ List.nodup_reverse.mpr hn
    have hfresh := (List.nodup_cons.mp (List.nodup_append.mp hnd).2.1).1
    exact absurd (by simp [hi]) hfresh

end SuccessorsFirst

/-! ### The finishing-order search -/

namespace Finishing

/-- A node discovered and not yet finished lies on the stack under nodes it reaches, and each
of its edges leads to a finished node or to one of those. -/
def Pending (p : Precedence) (stack finished : List String) (x : String) : Prop :=
  ∃ above below, stack = above ++ x :: below ∧ x ∉ above ∧
    (∀ y, p.Edge x y → y ∈ finished ∨ y ∈ above) ∧ ∀ z ∈ above, TransGen p.Edge x z

/-- What the search keeps: the stack holds nodes, the finished nodes are discovered and listed
once with successors first, and every other discovered node is pending. -/
structure Inv (p : Precedence) (s : Finishing) : Prop where
  stack_mem : ∀ x ∈ s.stack, x ∈ p.nodes
  finished_nodup : s.finished.Nodup
  finished_discovered : ∀ x ∈ s.finished, x ∈ s.discovered
  successorsFirst : SuccessorsFirst p s.finished
  pending : ∀ x ∈ s.discovered, x ∉ s.finished → Pending p s.stack s.finished x

section Pending

variable {p : Precedence} {x nx : String} {rest st F : List String}

/-- A pending node is either the top of the stack, with every successor finished, or pending
below the top, which it reaches. -/
theorem pending_cons (h : Pending p (nx :: rest) F x) :
    (x = nx ∧ ∀ y, p.Edge x y → y ∈ F) ∨
      (x ≠ nx ∧ TransGen p.Edge x nx ∧ Pending p rest (F ++ [nx]) x) := by
  obtain ⟨above, below, hst, hx, hout, hreach⟩ := h
  cases above with
  | nil =>
    simp only [List.nil_append, List.cons.injEq] at hst
    obtain ⟨rfl, -⟩ := hst
    exact .inl ⟨rfl, fun y hy => by simpa using hout y hy⟩
  | cons a above =>
    simp only [List.cons_append, List.cons.injEq] at hst
    obtain ⟨rfl, rfl⟩ := hst
    simp only [List.mem_cons, not_or] at hx
    refine .inr ⟨hx.1, hreach nx (by simp), above, below, rfl, hx.2, fun y hy => ?_,
      fun z hz => hreach z (by simp [hz])⟩
    rcases hout y hy with h | h
    · simp [h]
    · simp only [List.mem_cons] at h
      rcases h with rfl | h
      · simp
      · exact .inr h

theorem Pending.mono {F' : List String} (h : Pending p st F x) (hF : ∀ y ∈ F, y ∈ F') :
    Pending p st F' x := by
  obtain ⟨above, below, hst, hx, hout, hreach⟩ := h
  refine ⟨above, below, hst, hx, fun y hy => ?_, hreach⟩
  rcases hout y hy with h | h
  · exact .inl (hF y h)
  · exact .inr h

/-- Nodes pushed above a pending node keep it pending when it reaches them. -/
theorem Pending.prepend {pre : List String} (h : Pending p st F x) (hx : x ∉ pre)
    (hpre : ∀ z ∈ pre, TransGen p.Edge x z) : Pending p (pre ++ st) F x := by
  obtain ⟨above, below, rfl, hxa, hout, hreach⟩ := h
  refine ⟨pre ++ above, below, by simp, by simp [hx, hxa], fun y hy => ?_, fun z hz => ?_⟩
  · rcases hout y hy with h | h
    · exact .inl h
    · exact .inr (List.mem_append_right pre h)
  · rcases List.mem_append.mp hz with h | h
    · exact hpre z h
    · exact hreach z h

theorem not_pending_nil : ¬Pending p [] F x := by
  rintro ⟨above, below, h, -⟩
  simp at h

end Pending

section Step

variable {p : Precedence} {nx : String} {rest D F : List String}

/-- With an empty stack, every discovered node is finished. -/
theorem Inv.discovered_finished (hI : Inv p ⟨[], D, F⟩) {x : String} (hx : x ∈ D) : x ∈ F := by
  by_contra hxF
  exact not_pending_nil (hI.pending x hx hxF)

/-- Popping a node finished already. -/
theorem Inv.pop_finished (hI : Inv p ⟨nx :: rest, D, F⟩) (hf : nx ∈ F) : Inv p ⟨rest, D, F⟩ where
  stack_mem x hx := hI.stack_mem x (List.mem_cons_of_mem nx hx)
  finished_nodup := hI.finished_nodup
  finished_discovered := hI.finished_discovered
  successorsFirst := hI.successorsFirst
  pending x hx hxF := by
    rcases pending_cons (hI.pending x hx hxF) with ⟨rfl, -⟩ | ⟨-, -, h⟩
    · exact absurd hf hxF
    · exact h.mono fun y hy => by
        simp only [List.mem_append, List.mem_singleton] at hy
        rcases hy with hy | rfl
        · exact hy
        · exact hf

/-- Popping a pending node finishes it: its successors are finished already. -/
theorem Inv.pop_pending (hI : Inv p ⟨nx :: rest, D, F⟩) (hd : nx ∈ D) (hf : nx ∉ F) :
    Inv p ⟨rest, D, F ++ [nx]⟩ where
  stack_mem x hx := hI.stack_mem x (List.mem_cons_of_mem nx hx)
  finished_nodup := by
    show (F ++ [nx]).Nodup
    rw [← List.concat_eq_append]
    exact List.Nodup.concat hf hI.finished_nodup
  finished_discovered x hx := by
    simp only [List.mem_append, List.mem_singleton] at hx
    rcases hx with hx | rfl
    · exact hI.finished_discovered x hx
    · exact hd
  successorsFirst := by
    rcases pending_cons (hI.pending nx hd hf) with ⟨-, hout⟩ | ⟨hne, -⟩
    · exact hI.successorsFirst.snoc hout
    · exact absurd rfl hne
  pending x hx hxF := by
    simp only [List.mem_append, List.mem_singleton, not_or] at hxF
    rcases pending_cons (hI.pending x hx hxF.1) with ⟨rfl, -⟩ | ⟨-, -, h⟩
    · exact absurd rfl hxF.2
    · exact h

/-- Popping a discovered node, as the search does. -/
theorem Inv.pop (hI : Inv p ⟨nx :: rest, D, F⟩) (hd : nx ∈ D) :
    Inv p ⟨rest, D, if F.contains nx then F else F ++ [nx]⟩ := by
  by_cases hf : nx ∈ F
  · simpa [hf] using hI.pop_finished hf
  · simpa [hf] using hI.pop_pending hd hf

variable (hp : p.Sound) (hacyc : ∀ x, ¬TransGen p.Edge x x)
include hp hacyc

/-- Discovering a node pushes its undiscovered successors; in a graph without loops none of
its successors is pending. -/
theorem Inv.discover (hI : Inv p ⟨nx :: rest, D, F⟩) (hd : nx ∉ D) :
    Inv p ⟨pushUndiscovered (D ++ [nx]) (p.outgoing nx) (nx :: rest), D ++ [nx], F⟩ := by
  rw [pushUndiscovered_eq]
  -- the successors pushed are the undiscovered ones
  have hpushed : ∀ z, z ∈ ((p.outgoing nx).filter (!(D ++ [nx]).contains ·)).reverse ↔
      p.Edge nx z ∧ z ∉ D ∧ z ≠ nx := by
    intro z
    simp [hp.mem_outgoing]
  -- a discovered successor is finished: a pending one would close a loop through `nx`
  have hfinished : ∀ y, p.Edge nx y → y ∈ D → y ∈ F := by
    intro y hy hyD
    by_contra hyF
    rcases pending_cons (hI.pending y hyD hyF) with ⟨rfl, -⟩ | ⟨-, hreach, -⟩
    · exact hd hyD
    · exact hacyc y (hreach.tail hy)
  refine ⟨fun x hx => ?_, hI.finished_nodup, fun x hx => ?_, hI.successorsFirst,
    fun x hx hxF => ?_⟩
  · rcases List.mem_append.mp hx with h | h
    · exact (hp.edge_mem nx x ((hpushed x).mp h).1).2
    · exact hI.stack_mem x h
  · exact List.mem_append_left _ (hI.finished_discovered x hx)
  · simp only [List.mem_append, List.mem_singleton] at hx
    rcases hx with hx | rfl
    · -- a node pending before stays pending under the pushed successors of `nx`, which it reaches
      have hne : x ≠ nx := fun h => hd (h ▸ hx)
      have hreach : TransGen p.Edge x nx := by
        rcases pending_cons (hI.pending x hx hxF) with ⟨h, -⟩ | ⟨-, h, -⟩
        · exact absurd h hne
        · exact h
      refine (hI.pending x hx hxF).prepend (fun h => ((hpushed x).mp h).2.1 hx) fun z hz => ?_
      exact hreach.tail ((hpushed z).mp hz).1
    · -- `nx` itself is pending under its pushed successors
      refine ⟨_, rest, rfl, fun h => ((hpushed x).mp h).2.2 rfl, fun y hy => ?_,
        fun z hz => .single ((hpushed z).mp hz).1⟩
      by_cases hyD : y ∈ D
      · exact .inl (hfinished y hy hyD)
      · by_cases hyx : y = x
        · subst hyx
          exact absurd (.single hy) (hacyc y)
        · exact .inr ((hpushed y).mpr ⟨hy, hyD, hyx⟩)

end Step

/-! ### Running the search to the end -/

/-- What bounds the steps left: a pop lowers it by one, a discovery by at least two, since the
successors it pushes are at most the edges that leave the node discovered. -/
def potential (p : Precedence) (s : Finishing) : Nat :=
  s.stack.length + 2 * (p.nodes.filter (!s.discovered.contains ·)).length +
    (p.edges.filter (!s.discovered.contains ·.1)).length

section Run

variable {p : Precedence} {nx : String} {rest D F : List String} {fuel : Nat}

theorem potential_pop (F' : List String) :
    potential p ⟨rest, D, F'⟩ + 1 = potential p ⟨nx :: rest, D, F⟩ := by
  simp only [potential, List.length_cons]
  omega

theorem potential_discover (hp : p.Sound) (hx : nx ∈ p.nodes) (hd : nx ∉ D) :
    potential p ⟨pushUndiscovered (D ++ [nx]) (p.outgoing nx) (nx :: rest), D ++ [nx], F⟩ + 2 ≤
      potential p ⟨nx :: rest, D, F⟩ := by
  have hnodes := length_filter_undiscovered hp.nodes_nodup hx hd
  have hedges := length_filter_source p.edges hd
  have hpush : (pushUndiscovered (D ++ [nx]) (p.outgoing nx) (nx :: rest)).length ≤
      (p.outgoing nx).length + (nx :: rest).length := by
    rw [pushUndiscovered_eq, List.length_append, List.length_reverse]
    exact Nat.add_le_add_right (List.length_filter_le _ _) _
  have hout := hp.length_outgoing nx
  simp only [potential]
  omega

theorem finish_pop (h : nx ∈ D) :
    p.finish (fuel + 1) ⟨nx :: rest, D, F⟩ =
      p.finish fuel ⟨rest, D, if F.contains nx then F else F ++ [nx]⟩ := by
  simp [finish, h]

theorem finish_discover (h : nx ∉ D) (hs : nx ∉ p.outgoing nx) :
    p.finish (fuel + 1) ⟨nx :: rest, D, F⟩ =
      p.finish fuel ⟨pushUndiscovered (D ++ [nx]) (p.outgoing nx) (nx :: rest), D ++ [nx], F⟩ := by
  simp [finish, h, hs]

variable (hp : p.Sound) (hacyc : ∀ x, ¬TransGen p.Edge x x)
include hp hacyc

/-- With fuel above the potential, the search empties its stack, keeps its invariant, and
discovers every node that was on the stack. -/
theorem finish_spec (fuel : Nat) (s : Finishing) (hI : Inv p s) (hΦ : potential p s ≤ fuel) :
    ∃ s', p.finish fuel s = .ok s' ∧ s'.stack = [] ∧ Inv p s' ∧
      ∀ x, x ∈ s.stack ∨ x ∈ s.discovered → x ∈ s'.discovered := by
  induction fuel generalizing s with
  | zero =>
    obtain ⟨stack, D, F⟩ := s
    have hst : stack = [] := List.eq_nil_of_length_eq_zero (by simp only [potential] at hΦ; omega)
    subst hst
    exact ⟨_, rfl, rfl, hI, fun x hx => by simpa using hx⟩
  | succ fuel ih =>
    obtain ⟨stack, D, F⟩ := s
    cases stack with
    | nil => exact ⟨_, rfl, rfl, hI, fun x hx => by simpa using hx⟩
    | cons nx rest =>
      by_cases hd : nx ∈ D
      · -- popping a discovered node
        have hdrop : potential p ⟨rest, D, if F.contains nx then F else F ++ [nx]⟩ + 1 =
            potential p ⟨nx :: rest, D, F⟩ := potential_pop _
        obtain ⟨s', hrun, hst, hI', hdisc⟩ := ih _ (hI.pop hd) (by omega)
        refine ⟨s', by rw [finish_pop hd]; exact hrun, hst, hI', fun x hx => ?_⟩
        simp only [List.mem_cons] at hx
        rcases hx with (rfl | hx) | hx
        · exact hdisc x (.inr hd)
        · exact hdisc x (.inl hx)
        · exact hdisc x (.inr hx)
      · -- discovering a node, which has no edge to itself
        have hself : nx ∉ p.outgoing nx := fun h => hacyc nx (.single (hp.mem_outgoing.mp h))
        have hdrop : potential p ⟨_, D ++ [nx], F⟩ + 2 ≤ potential p ⟨nx :: rest, D, F⟩ :=
          potential_discover hp (hI.stack_mem nx (List.mem_cons_self ..)) hd
        obtain ⟨s', hrun, hst, hI', hdisc⟩ := ih _ (hI.discover hp hacyc hd) (by omega)
        refine ⟨s', by rw [finish_discover hd hself]; exact hrun, hst, hI', fun x hx => ?_⟩
        rcases hx with hx | hx
        · exact hdisc x (.inl (by rw [pushUndiscovered_eq]; exact List.mem_append_right _ hx))
        · exact hdisc x (.inr (List.mem_append_left _ hx))

/-- One search from each node not yet discovered, as the first pass does. -/
def searchFrom (p : Precedence) (fuel : Nat) (s : Finishing) (i : String) :
    Except String Finishing :=
  if s.discovered.contains i then pure s else p.finish fuel ⟨[i], s.discovered, s.finished⟩

/-- Searching from each node of a list discovers them all and leaves the stack empty. -/
theorem foldlM_searchFrom (hfuel : 2 * p.nodes.length + p.edges.length + 1 ≤ fuel) :
    ∀ (L : List String), (∀ i ∈ L, i ∈ p.nodes) → ∀ s : Finishing, s.stack = [] → Inv p s →
      ∃ s', L.foldlM (searchFrom p fuel) s = .ok s' ∧ s'.stack = [] ∧ Inv p s' ∧
        ∀ x, x ∈ L ∨ x ∈ s.discovered → x ∈ s'.discovered
  | [], _, s, hs, hI => ⟨s, rfl, hs, hI, fun x hx => by simpa using hx⟩
  | i :: L, hL, ⟨stack, D, F⟩, hs, hI => by
    obtain rfl : stack = [] := hs
    have hL' : ∀ j ∈ L, j ∈ p.nodes := fun j hj => hL j (List.mem_cons_of_mem i hj)
    by_cases hi : i ∈ D
    · obtain ⟨s', hrun, hst, hI', hdisc⟩ := foldlM_searchFrom hfuel L hL' ⟨[], D, F⟩ rfl hI
      refine ⟨s', by simpa [searchFrom, hi] using hrun, hst, hI', fun x hx => ?_⟩
      simp only [List.mem_cons] at hx
      rcases hx with (rfl | hx) | hx
      · exact hdisc x (.inr hi)
      · exact hdisc x (.inl hx)
      · exact hdisc x (.inr hx)
    · -- a search from `i` starts with no pending node, since the stack was empty
      have hstart : Inv p ⟨[i], D, F⟩ :=
        { stack_mem := fun x hx => by
            rw [List.mem_singleton.mp hx]
            exact hL i (List.mem_cons_self ..)
          finished_nodup := hI.finished_nodup
          finished_discovered := hI.finished_discovered
          successorsFirst := hI.successorsFirst
          pending := fun x hx hxF => absurd (hI.discovered_finished hx) hxF }
      have hΦ : potential p ⟨[i], D, F⟩ ≤ fuel := by
        have hn := List.length_filter_le (!D.contains ·) p.nodes
        have he := List.length_filter_le (!D.contains ·.1) p.edges
        simp only [potential, List.length_singleton]
        omega
      obtain ⟨s₁, hrun₁, hst₁, hI₁, hdisc₁⟩ := finish_spec hp hacyc fuel _ hstart hΦ
      obtain ⟨s', hrun, hst, hI', hdisc⟩ := foldlM_searchFrom hfuel L hL' s₁ hst₁ hI₁
      have hfirst : searchFrom p fuel ⟨[], D, F⟩ i = .ok s₁ := by
        rw [searchFrom, if_neg (by simpa using hi)]
        exact hrun₁
      refine ⟨s', by rw [List.foldlM_cons, hfirst]; exact hrun, hst, hI', fun x hx => ?_⟩
      simp only [List.mem_cons] at hx
      rcases hx with (rfl | hx) | hx
      · exact hdisc x (.inr (hdisc₁ x (.inl (List.mem_singleton_self x))))
      · exact hdisc x (.inl hx)
      · exact hdisc x (.inr (hdisc₁ x (.inr hx)))

end Run

end Finishing

theorem finishingOrder_eq (p : Precedence) :
    p.finishingOrder = (do
      let s ← p.nodes.foldlM (Finishing.searchFrom p (2 * (p.nodes.length + p.edges.length) + 1))
        ⟨[], [], []⟩
      return s.finished) := rfl

section Order

variable {p : Precedence} (hp : p.Sound) (hacyc : ∀ x, ¬TransGen p.Edge x x)
include hp hacyc

/-- In a graph without loops the first pass lists every node once, successors first. -/
theorem finishingOrder_spec :
    ∃ order, p.finishingOrder = .ok order ∧ order.Nodup ∧ SuccessorsFirst p order ∧
      ∀ x ∈ p.nodes, x ∈ order := by
  have hstart : Finishing.Inv p ⟨[], [], []⟩ :=
    { stack_mem := by simp
      finished_nodup := List.nodup_nil
      finished_discovered := by simp
      successorsFirst := successorsFirst_nil p
      pending := by simp }
  have hfuel : 2 * p.nodes.length + p.edges.length + 1 ≤
      2 * (p.nodes.length + p.edges.length) + 1 := by omega
  obtain ⟨s, hrun, hst, hI, hdisc⟩ :=
    Finishing.foldlM_searchFrom hp hacyc hfuel p.nodes (fun _ h => h) _ rfl hstart
  obtain ⟨stack, D, F⟩ := s
  obtain rfl : stack = [] := hst
  refine ⟨F, by simp [finishingOrder_eq, hrun], hI.finished_nodup, hI.successorsFirst,
    fun x hx => hI.discovered_finished (hdisc x (.inl hx))⟩

end Order

/-! ### The backward pass -/

section Back

variable {p : Precedence}

theorem reachBack_nil (fuel : Nat) (d : List String) (started : Bool) :
    p.reachBack fuel [] d started = .ok d := by
  cases fuel <;> rfl

/-- A backward search from a node whose predecessors are all searched already discovers just
that node. -/
theorem reachBack_single (hp : p.Sound) {fuel : Nat} {d : List String} {i : String} (hi : i ∉ d)
    (hin : ∀ u, p.Edge u i → u = i ∨ u ∈ d) :
    p.reachBack (fuel + 1) [i] d false = .ok (d ++ [i]) := by
  have hpush : pushUndiscovered (d ++ [i]) (p.incoming i) [] = [] := by
    rw [pushUndiscovered_eq, List.append_nil, List.reverse_eq_nil_iff, List.filter_eq_nil_iff]
    intro u hu
    rcases hin u (hp.mem_incoming.mp hu) with rfl | h <;> simp [*]
  simp [reachBack, hi, hpush, reachBack_nil]

/-- Searching backwards from each node of a list, in order, discovers each in turn when every
edge into a node comes from the node itself or from one searched before it. -/
theorem foldlM_reachBack (hp : p.Sound) (fuel : Nat) :
    ∀ (L d : List String), L.Nodup → (∀ x ∈ L, x ∉ d) →
      (∀ P i R, L = P ++ i :: R → ∀ u, p.Edge u i → u = i ∨ u ∈ d ∨ u ∈ P) →
      L.foldlM (fun d i => p.reachBack (fuel + 1) [i] d false) d = .ok (d ++ L)
  | [], d, _, _, _ => by rw [List.append_nil]; rfl
  | i :: L, d, hn, hd, hin => by
    rw [List.nodup_cons] at hn
    have hfirst : p.reachBack (fuel + 1) [i] d false = .ok (d ++ [i]) := by
      refine reachBack_single hp (hd i (List.mem_cons_self ..)) fun u hu => ?_
      rcases hin [] i L rfl u hu with h | h | h
      · exact .inl h
      · exact .inr h
      · simp at h
    have hrest := foldlM_reachBack hp fuel L (d ++ [i]) hn.2 (fun x hx => by
        simp only [List.mem_append, List.mem_singleton, not_or]
        exact ⟨hd x (List.mem_cons_of_mem i hx), fun h => hn.1 (h ▸ hx)⟩)
      (fun P j R h u hu => by
        rcases hin (i :: P) j R (by simp [h]) u hu with h | h | h
        · exact .inl h
        · exact .inr (.inl (List.mem_append_left _ h))
        · simp only [List.mem_cons] at h
          rcases h with rfl | h
          · exact .inr (.inl (by simp))
          · exact .inr (.inr h))
    rw [List.foldlM_cons, hfirst, show d ++ i :: L = d ++ [i] ++ L by simp]
    exact hrest

end Back

/-- **A graph without loops has no loop reported.** Both passes of the search run to the end:
the first lists every node once, successors first, and the second, reading that list
backwards, finds every edge into a node already searched. -/
theorem loopNode?_eq_none {p : Precedence} (hp : p.Sound) (hacyc : ∀ x, ¬TransGen p.Edge x x) :
    p.loopNode? = none := by
  obtain ⟨order, hord, hnd, hsf, hall⟩ := finishingOrder_spec hp hacyc
  have hback := foldlM_reachBack hp (2 * (p.nodes.length + p.edges.length)) order.reverse []
    (List.nodup_reverse.mpr hnd) (fun _ _ h => List.not_mem_nil h)
    (fun P i R h u hu => by
      rcases hsf.edge_before hnd h (hall u (hp.edge_mem u i hu).1) hu with h | h
      · exact .inl h
      · exact .inr (.inr h))
  unfold loopNode?
  rw [hord]
  dsimp only
  rw [hback]

end Precedence

end CycledWorkflow
