import CycledWorkflow.Proofs.Graph.LoopSearch
/-!
# The loop search reports every loop

The converse of `loopNode?_eq_none`: on a sound graph the two-pass search reports nothing only
when the edges form no loop (`loopNode?_eq_none_iff`).

The first pass keeps a weaker invariant than on a graph without loops (`Finishing.Covers`):
the stack holds nodes, every node discovered and not finished is on the stack, and no
discovered node has an edge to itself (the search stops at such a node). The fuel bound
does not depend on loops, so a search that does not stop at a node linked to itself empties
its stack, and then every node is discovered and finished.

A backward search from a node that does not report anything has found every edge into that
node coming from the node itself or from a node searched before (`reachBack_eq_ok`). Run
over the whole finishing order, the second pass thus lists every node once, each after every
other node with an edge into it (`SearchedBefore`). Along a chain of edges each node then comes
before the next, so no chain returns to where it started.
-/

namespace CycledWorkflow

open Relation

namespace Precedence

/-! ### Lists that put every edge forwards -/

/-- Every node of the list comes after every other node with an edge into it. -/
def SearchedBefore (p : Precedence) (d : List String) : Prop :=
  ∀ P v R, d = P ++ v :: R → ∀ u, p.Edge u v → u = v ∨ u ∈ P

section SearchedBefore

variable {p : Precedence}

theorem searchedBefore_nil (p : Precedence) : SearchedBefore p [] := by
  intro P v R h
  simp at h

/-- A node whose other predecessors are all listed may be listed next. -/
theorem SearchedBefore.snoc {d : List String} {i : String} (hd : SearchedBefore p d)
    (hi : ∀ u, p.Edge u i → u = i ∨ u ∈ d) : SearchedBefore p (d ++ [i]) := by
  intro P v R h u hu
  rcases List.eq_nil_or_concat R with rfl | ⟨R', z, rfl⟩
  · have h' : d ++ [i] = P ++ [v] := by simpa using h
    obtain ⟨rfl, hv⟩ := List.append_inj' h' rfl
    obtain rfl : v = i := by simpa using hv.symm
    exact hi u hu
  · have h' : d ++ [i] = (P ++ v :: R') ++ [z] := by simpa using h
    exact hd P v R' (List.append_inj' h' rfl).1 u hu

/-- In a list without repeats that puts every edge forwards, a chain of edges into a node with
no edge to itself starts before that node. -/
theorem SearchedBefore.mem_prefix_of_transGen {d : List String} (hd : SearchedBefore p d)
    (hself : ∀ x ∈ d, ¬p.Edge x x) {u v : String} (h : TransGen p.Edge u v) :
    ∀ P R, d = P ++ v :: R → u ∈ P := by
  induction h with
  | single huv =>
    intro P R hPR
    rcases hd P _ R hPR u huv with rfl | hu
    · exact absurd huv (hself u (by simp [hPR]))
    · exact hu
  | @tail b c _ hbc ih =>
    intro P R hPR
    -- the node before the last step comes earlier, and the chain into it earlier still
    have hb : b ∈ P := by
      rcases hd P c R hPR b hbc with rfl | hb
      · exact absurd hbc (hself b (by simp [hPR]))
      · exact hb
    obtain ⟨P₁, P₂, rfl⟩ := List.append_of_mem hb
    have hu := ih P₁ (P₂ ++ c :: R) (by simp [hPR])
    exact List.mem_append_left _ hu

/-- A list without repeats that puts every edge forwards has no loop through its nodes. -/
theorem SearchedBefore.not_transGen_self {d : List String} (hd : SearchedBefore p d)
    (hn : d.Nodup) (hself : ∀ x ∈ d, ¬p.Edge x x) {x : String} (hx : x ∈ d) :
    ¬TransGen p.Edge x x := by
  intro h
  obtain ⟨P, R, hPR⟩ := List.append_of_mem hx
  have hxP := hd.mem_prefix_of_transGen hself h P R hPR
  -- `x` would be listed twice
  rw [hPR] at hn
  exact (List.nodup_append.mp hn).2.2 x hxP x List.mem_cons_self rfl

end SearchedBefore

/-! ### The first pass, loops or not -/

namespace Finishing

/-- What every run of the search keeps: the stack holds nodes, every node discovered and not
finished is on the stack, and no discovered node has an edge to itself. -/
structure Covers (p : Precedence) (s : Finishing) : Prop where
  stack_mem : ∀ x ∈ s.stack, x ∈ p.nodes
  on_stack : ∀ x ∈ s.discovered, x ∉ s.finished → x ∈ s.stack
  no_self : ∀ x ∈ s.discovered, ¬p.Edge x x

section Covers

variable {p : Precedence} {nx : String} {rest D F : List String}

/-- Popping a discovered node finishes it, if it was not already. -/
theorem Covers.pop (hI : Covers p ⟨nx :: rest, D, F⟩) :
    Covers p ⟨rest, D, if F.contains nx then F else F ++ [nx]⟩ where
  stack_mem x hx := hI.stack_mem x (List.mem_cons_of_mem nx hx)
  on_stack x hx hxF := by
    have hF : x ∉ F ∧ x ≠ nx := by
      by_cases hn : nx ∈ F
      · simp only [hn, List.contains_eq_mem, decide_true, if_true] at hxF
        exact ⟨hxF, fun h => hxF (h ▸ hn)⟩
      · simpa [hn] using hxF
    rcases List.mem_cons.mp (hI.on_stack x hx hF.1) with h | h
    · exact absurd h hF.2
    · exact h
  no_self := hI.no_self

/-- Discovering a node with no edge to itself pushes its undiscovered successors. -/
theorem Covers.discover (hp : p.Sound) (hI : Covers p ⟨nx :: rest, D, F⟩)
    (hs : nx ∉ p.outgoing nx) :
    Covers p ⟨pushUndiscovered (D ++ [nx]) (p.outgoing nx) (nx :: rest), D ++ [nx], F⟩ where
  stack_mem x hx := by
    rw [pushUndiscovered_eq] at hx
    rcases List.mem_append.mp hx with h | h
    · have he : p.Edge nx x := hp.mem_outgoing.mp (List.mem_filter.mp (List.mem_reverse.mp h)).1
      exact (hp.edge_mem nx x he).2
    · exact hI.stack_mem x h
  on_stack x hx hxF := by
    rw [pushUndiscovered_eq]
    rcases List.mem_append.mp hx with h | h
    · exact List.mem_append_right _ (hI.on_stack x h hxF)
    · obtain rfl := List.mem_singleton.mp h
      exact List.mem_append_right _ List.mem_cons_self
  no_self x hx := by
    rcases List.mem_append.mp hx with h | h
    · exact hI.no_self x h
    · obtain rfl := List.mem_singleton.mp h
      exact fun he => hs (hp.mem_outgoing.mpr he)

/-- A search that ends without meeting a node linked to itself, with fuel above the potential,
empties its stack and discovers every node that was on it. -/
theorem finish_covers (hp : p.Sound) :
    ∀ (fuel : Nat) (s s' : Finishing), Covers p s → potential p s ≤ fuel →
      p.finish fuel s = .ok s' →
      s'.stack = [] ∧ Covers p s' ∧ ∀ x, x ∈ s.stack ∨ x ∈ s.discovered → x ∈ s'.discovered
  | 0, ⟨stack, D, F⟩, s', hI, hΦ, h => by
    have hst : stack = [] := List.eq_nil_of_length_eq_zero (by simp only [potential] at hΦ; omega)
    subst hst
    obtain rfl : (⟨[], D, F⟩ : Finishing) = s' := Except.ok.inj h
    exact ⟨rfl, hI, fun x hx => by simpa using hx⟩
  | _ + 1, ⟨[], D, F⟩, s', hI, _, h => by
    obtain rfl : (⟨[], D, F⟩ : Finishing) = s' := Except.ok.inj h
    exact ⟨rfl, hI, fun x hx => by simpa using hx⟩
  | fuel + 1, ⟨nx :: rest, D, F⟩, s', hI, hΦ, h => by
    by_cases hd : nx ∈ D
    · rw [finish_pop hd] at h
      have hdrop : potential p ⟨rest, D, if F.contains nx then F else F ++ [nx]⟩ + 1 =
          potential p ⟨nx :: rest, D, F⟩ := potential_pop _
      obtain ⟨hst, hI', hdisc⟩ := finish_covers hp fuel _ s' hI.pop (by omega) h
      refine ⟨hst, hI', fun x hx => ?_⟩
      simp only [List.mem_cons] at hx
      rcases hx with (rfl | hx) | hx
      · exact hdisc x (.inr hd)
      · exact hdisc x (.inl hx)
      · exact hdisc x (.inr hx)
    · -- a node linked to itself would have ended the search with an error
      have hs : nx ∉ p.outgoing nx := by
        intro hs
        simp [finish, hd, hs] at h
      rw [finish_discover hd hs] at h
      have hdrop : potential p ⟨_, D ++ [nx], F⟩ + 2 ≤ potential p ⟨nx :: rest, D, F⟩ :=
        potential_discover hp (hI.stack_mem nx List.mem_cons_self) hd
      obtain ⟨hst, hI', hdisc⟩ := finish_covers hp fuel _ s' (hI.discover hp hs) (by omega) h
      refine ⟨hst, hI', fun x hx => ?_⟩
      rcases hx with hx | hx
      · exact hdisc x (.inl (by rw [pushUndiscovered_eq]; exact List.mem_append_right _ hx))
      · exact hdisc x (.inr (List.mem_append_left _ hx))

/-- Searching from each node of a list, when no search meets a node linked to itself,
discovers them all and leaves the stack empty. -/
theorem foldlM_searchFrom_covers (hp : p.Sound) {fuel : Nat}
    (hfuel : 2 * p.nodes.length + p.edges.length + 1 ≤ fuel) :
    ∀ (L : List String), (∀ i ∈ L, i ∈ p.nodes) → ∀ s s' : Finishing, s.stack = [] →
      Covers p s → L.foldlM (searchFrom p fuel) s = .ok s' →
      s'.stack = [] ∧ Covers p s' ∧ ∀ x, x ∈ L ∨ x ∈ s.discovered → x ∈ s'.discovered
  | [], _, s, s', hs, hI, h => by
    obtain rfl : s = s' := Except.ok.inj h
    exact ⟨hs, hI, fun x hx => by simpa using hx⟩
  | i :: L, hL, ⟨stack, D, F⟩, s', hs, hI, h => by
    obtain rfl : stack = [] := hs
    have hL' : ∀ j ∈ L, j ∈ p.nodes := fun j hj => hL j (List.mem_cons_of_mem i hj)
    rw [List.foldlM_cons] at h
    obtain ⟨s₁, h₁, h⟩ := exists_ok_of_bind_ok h
    -- the search from `i`, if `i` was not discovered yet, ends with an empty stack
    have hfirst : s₁.stack = [] ∧ Covers p s₁ ∧ ∀ x, x = i ∨ x ∈ D → x ∈ s₁.discovered := by
      by_cases hi : i ∈ D
      · obtain rfl : (⟨[], D, F⟩ : Finishing) = s₁ := by simpa [searchFrom, hi] using h₁
        exact ⟨rfl, hI, fun x hx => hx.elim (fun h => h ▸ hi) id⟩
      · rw [searchFrom, if_neg (by simpa using hi)] at h₁
        have hstart : Covers p ⟨[i], D, F⟩ :=
          { stack_mem := fun x hx => by
              rw [List.mem_singleton.mp hx]
              exact hL i List.mem_cons_self
            on_stack := fun x hx hxF => absurd (hI.on_stack x hx hxF) List.not_mem_nil
            no_self := hI.no_self }
        have hΦ : potential p ⟨[i], D, F⟩ ≤ fuel := by
          have hn := List.length_filter_le (!D.contains ·) p.nodes
          have he := List.length_filter_le (!D.contains ·.1) p.edges
          simp only [potential, List.length_singleton]
          omega
        obtain ⟨hst, hI₁, hdisc⟩ := finish_covers hp fuel _ s₁ hstart hΦ h₁
        exact ⟨hst, hI₁, fun x hx => hdisc x (hx.imp List.mem_singleton.mpr id)⟩
    obtain ⟨hst₁, hI₁, hdisc₁⟩ := hfirst
    obtain ⟨hst, hI', hdisc⟩ := foldlM_searchFrom_covers hp hfuel L hL' s₁ s' hst₁ hI₁ h
    refine ⟨hst, hI', fun x hx => ?_⟩
    simp only [List.mem_cons] at hx
    rcases hx with (rfl | hx) | hx
    · exact hdisc x (.inr (hdisc₁ x (.inl rfl)))
    · exact hdisc x (.inl hx)
    · exact hdisc x (.inr (hdisc₁ x (.inr hx)))

end Covers

end Finishing

/-- A first pass that reports nothing lists every node, and no node has an edge to itself. -/
theorem finishingOrder_covers {p : Precedence} (hp : p.Sound) {order : List String}
    (h : p.finishingOrder = .ok order) :
    (∀ x ∈ p.nodes, x ∈ order) ∧ ∀ x ∈ p.nodes, ¬p.Edge x x := by
  rw [finishingOrder_eq] at h
  obtain ⟨s, hs, h⟩ := exists_ok_of_bind_ok h
  obtain rfl : s.finished = order := Except.ok.inj h
  have hstart : Finishing.Covers p ⟨[], [], []⟩ :=
    { stack_mem := by simp
      on_stack := by simp
      no_self := by simp }
  obtain ⟨hst, hI, hdisc⟩ := Finishing.foldlM_searchFrom_covers hp (by omega) p.nodes
    (fun _ h => h) _ s rfl hstart hs
  -- with the stack empty, every discovered node is finished
  refine ⟨fun x hx => ?_, fun x hx => hI.no_self x (hdisc x (.inl hx))⟩
  by_contra hxF
  have := hI.on_stack x (hdisc x (.inl hx)) hxF
  rw [hst] at this
  exact List.not_mem_nil this

/-! ### The second pass, loops or not -/

section Back

variable {p : Precedence}

/-- A backward search from one node that reports nothing either found the node searched
already or lists it next, every other node with an edge into it being searched already. -/
theorem reachBack_eq_ok (hp : p.Sound) {fuel : Nat} (hf : 0 < fuel) {i : String}
    {d d' : List String} (h : p.reachBack (fuel + 1) [i] d false = .ok d') :
    (i ∈ d ∧ d' = d) ∨ (i ∉ d ∧ d' = d ++ [i] ∧ ∀ u, p.Edge u i → u = i ∨ u ∈ d) := by
  by_cases hi : i ∈ d
  · simp only [reachBack, hi, List.contains_eq_mem, decide_true, if_true, reachBack_nil,
      Except.ok.injEq] at h
    exact .inl ⟨hi, h.symm⟩
  · obtain ⟨fuel, rfl⟩ : ∃ k, fuel = k + 1 := ⟨fuel - 1, by omega⟩
    simp only [reachBack, hi, List.contains_eq_mem, decide_false, Bool.false_eq_true,
      if_false] at h
    rw [pushUndiscovered_eq, List.append_nil] at h
    -- an undiscovered node with an edge into `i` would be met next and reported
    cases hpush : ((p.incoming i).filter (!(d ++ [i]).contains ·)).reverse with
    | nil =>
      rw [hpush, reachBack_nil] at h
      refine .inr ⟨hi, (Except.ok.inj h).symm, fun u hu => ?_⟩
      have hnone := List.filter_eq_nil_iff.mp (List.reverse_eq_nil_iff.mp hpush) u
        (hp.mem_incoming.mpr hu)
      simp only [List.contains_eq_mem, List.mem_append, List.mem_singleton, Bool.not_eq_true',
        decide_eq_false_iff_not, not_not] at hnone
      exact hnone.symm
    | cons j rest =>
      have hj : j ∉ d ++ [i] := by
        have : j ∈ ((p.incoming i).filter (!(d ++ [i]).contains ·)).reverse :=
          hpush ▸ List.mem_cons_self
        simpa using (List.mem_filter.mp (List.mem_reverse.mp this)).2
      rw [hpush] at h
      simp [reachBack, hj] at h

/-- A second pass that reports nothing lists each node searched once, after every other node
with an edge into it, and lists every node it searched from. -/
theorem foldlM_reachBack_eq_ok (hp : p.Sound) {fuel : Nat} (hf : 0 < fuel) :
    ∀ (L d d' : List String), SearchedBefore p d → d.Nodup →
      L.foldlM (fun d i => p.reachBack (fuel + 1) [i] d false) d = .ok d' →
      SearchedBefore p d' ∧ d'.Nodup ∧ ∀ x, x ∈ L ∨ x ∈ d → x ∈ d'
  | [], d, d', hs, hn, h => by
    obtain rfl : d = d' := Except.ok.inj h
    exact ⟨hs, hn, fun x hx => by simpa using hx⟩
  | i :: L, d, d', hs, hn, h => by
    rw [List.foldlM_cons] at h
    obtain ⟨d₁, h₁, h⟩ := exists_ok_of_bind_ok h
    have hstep : SearchedBefore p d₁ ∧ d₁.Nodup ∧ ∀ x, x = i ∨ x ∈ d → x ∈ d₁ := by
      rcases reachBack_eq_ok hp hf h₁ with ⟨hi, rfl⟩ | ⟨hi, rfl, hin⟩
      · exact ⟨hs, hn, fun x hx => hx.elim (fun h => h ▸ hi) id⟩
      · refine ⟨hs.snoc hin, ?_, fun x hx => ?_⟩
        · rw [← List.concat_eq_append]
          exact List.Nodup.concat hi hn
        · rcases hx with rfl | hx
          · exact List.mem_append_right _ (List.mem_singleton_self x)
          · exact List.mem_append_left _ hx
    obtain ⟨hs₁, hn₁, hmem₁⟩ := hstep
    obtain ⟨hs', hn', hmem'⟩ := foldlM_reachBack_eq_ok hp hf L d₁ d' hs₁ hn₁ h
    refine ⟨hs', hn', fun x hx => ?_⟩
    simp only [List.mem_cons] at hx
    rcases hx with (rfl | hx) | hx
    · exact hmem' x (.inr (hmem₁ x (.inl rfl)))
    · exact hmem' x (.inl hx)
    · exact hmem' x (.inr (hmem₁ x (.inr hx)))

end Back

/-- **The search reports a loop exactly when there is one.** On a sound graph, neither pass
reports anything only when no chain of edges returns to where it started. -/
theorem loopNode?_eq_none_iff {p : Precedence} (hp : p.Sound) :
    p.loopNode? = none ↔ ∀ x, ¬TransGen p.Edge x x := by
  refine ⟨fun h x hx => ?_, loopNode?_eq_none hp⟩
  -- a loop has an edge, so the backward searches have fuel to report
  have hedge : p.edges ≠ [] := by
    obtain ⟨y, hy⟩ : ∃ y, p.Edge x y := by
      cases hx with
      | single h => exact ⟨_, h⟩
      | tail h _ => exact (TransGen.head'_iff.mp h).elim fun y h => ⟨y, h.1⟩
    exact List.ne_nil_of_mem hy
  have hfuel : 0 < 2 * (p.nodes.length + p.edges.length) := by
    have := List.length_pos_of_ne_nil hedge
    omega
  unfold loopNode? at h
  cases hord : p.finishingOrder with
  | error n => simp [hord] at h
  | ok order =>
    obtain ⟨hall, hself⟩ := finishingOrder_covers hp hord
    rw [hord] at h
    dsimp only at h
    cases hback : order.reverse.foldlM
        (fun d i => p.reachBack (2 * (p.nodes.length + p.edges.length) + 1) [i] d false) [] with
    | error n => simp [hback] at h
    | ok d =>
      obtain ⟨hs, hn, hmem⟩ :=
        foldlM_reachBack_eq_ok hp hfuel order.reverse [] d (searchedBefore_nil p) List.nodup_nil
          hback
      -- every node is searched, so the loop would run forwards through the list
      have hnode : ∀ y ∈ p.nodes, y ∈ d :=
        fun y hy => hmem y (.inl (List.mem_reverse.mpr (hall y hy)))
      have hxn : x ∈ p.nodes := by
        obtain ⟨y, hy⟩ := (TransGen.head'_iff.mp hx)
        exact (hp.edge_mem x y hy.1).1
      refine hs.not_transGen_self hn (fun y hy hyy => hself y ?_ hyy) (hnode x hxn) hx
      exact (hp.edge_mem y y hyy).1

end Precedence

end CycledWorkflow
