import CycledWorkflow.Proofs.Dependency.Leaves
/-!
# What a built dependency means

A dependency is read as a condition once each of its leaves is given a truth value: an `and`
node holds when every child holds (so also when it has none), an `or` node when some child
holds, and a `nor` node when no child holds (`Dependency.holds`).

The builder adds children one call at a time (`Prerequisites.Step`). A call under a switch
that is off, or with no child to give, adds nothing, and every other call appends its child:
after any sequence of calls the children are those the calls added, in the order of the calls
(`children_build`). Closing then keeps their meaning. `all` and `any` give nothing for no
children and otherwise a dependency that holds exactly when all (some) of the children hold;
that a single child stands for itself is sound because `and` and `or` of one value are that
value. `none` gives nothing for no children and otherwise a `nor` node over exactly the
children, which holds when none of them does; `nor` of one value is its negation, so a single
child is kept under its node. Each closing keeps the conditions of the children, in order.

Main statement: `build_closings_keep_meaning`.
-/

namespace CycledWorkflow

namespace Combinator

/-- How a node joins the truth values of its children. -/
def join : Combinator → List Bool → Bool
  | .all, bs => bs.all id
  | .any, bs => bs.any id
  | .none, bs => !bs.any id

/-- `and` of a single value is that value. -/
theorem join_all_single (b : Bool) : Combinator.all.join [b] = b := by
  cases b <;> rfl

/-- `or` of a single value is that value. -/
theorem join_any_single (b : Bool) : Combinator.any.join [b] = b := by
  cases b <;> rfl

end Combinator

namespace Dependency

mutual

/-- Whether a dependency holds when each condition holds as `v` says. -/
def holds (v : Predicate → Bool) : Dependency → Bool
  | .leaf p => v p
  | .node op cs => op.join (holdsEach v cs)

/-- Whether each dependency of a list holds, in order. -/
def holdsEach (v : Predicate → Bool) : List Dependency → List Bool
  | [] => []
  | d :: ds => holds v d :: holdsEach v ds

end

variable (v : Predicate → Bool)

theorem holdsEach_eq_map (cs : List Dependency) : holdsEach v cs = cs.map (holds v) := by
  induction cs with
  | nil => rfl
  | cons d ds ih => rw [holdsEach, ih, List.map_cons]

@[simp] theorem holds_leaf (p : Predicate) : (leaf p).holds v = v p := rfl

theorem holds_node (op : Combinator) (cs : List Dependency) :
    (node op cs).holds v = op.join (cs.map (holds v)) := by
  rw [holds, holdsEach_eq_map]

@[simp] theorem holds_allOf (cs : List Dependency) : (allOf cs).holds v = cs.all (holds v) := by
  simp [allOf, holds_node, Combinator.join, List.all_map]

@[simp] theorem holds_anyOf (cs : List Dependency) : (anyOf cs).holds v = cs.any (holds v) := by
  simp [anyOf, holds_node, Combinator.join, List.any_map]

@[simp] theorem holds_noneOf (cs : List Dependency) :
    (noneOf cs).holds v = !cs.any (holds v) := by
  simp [noneOf, holds_node, Combinator.join, List.any_map]

end Dependency

namespace Prerequisites

open Dependency (holds leaves leavesOf)

variable (v : Predicate → Bool)

/-! ### Closing -/

/-- Closing with a combinator that a single child needs not keeps the meaning of the node
over the children, provided the combinator joins a single value to itself. -/
theorem map_holds_close {op : Combinator} (hop : ∀ b, op.join [b] = b) (cs : List Dependency) :
    (close op cs).map (holds v) =
      if cs = [] then Option.none else some (op.join (cs.map (holds v))) := by
  match cs with
  | [] => rfl
  -- the single child stands for the node over it
  | [d] => simp [close, hop]
  | d :: e :: rest => simp [close, Dependency.holds_node]

theorem map_holds_all (p : Prerequisites) :
    p.all.map (holds v) =
      if p.children = [] then Option.none else some (p.children.all (holds v)) := by
  rw [all, map_holds_close v Combinator.join_all_single]
  simp [Combinator.join, List.all_map]

theorem map_holds_any (p : Prerequisites) :
    p.any.map (holds v) =
      if p.children = [] then Option.none else some (p.children.any (holds v)) := by
  rw [any, map_holds_close v Combinator.join_any_single]
  simp [Combinator.join, List.any_map]

/-- `none` keeps every child under its node, a single one included. -/
theorem none_eq (p : Prerequisites) :
    p.none = if p.children = [] then Option.none else some (.noneOf p.children) := by
  simp [none, List.isEmpty_iff, Dependency.noneOf]

theorem map_holds_none (p : Prerequisites) :
    p.none.map (holds v) =
      if p.children = [] then Option.none else some (!p.children.any (holds v)) := by
  rw [none_eq]
  split <;> simp

/-! ### Sequences of calls -/

/-- One call of the builder: adding a child, under a switch, or if there is one, or adding a
task of the same cycle (under a switch) or of another, a metatask, a file or the absence of a
cycle. -/
inductive Step where
  | add (d : Dependency)
  | addIf (cond : Bool) (d : Dependency)
  | addOpt (d : Option Dependency)
  | task (name : String)
  | taskIf (cond : Bool) (name : String)
  | taskAt (name : String) (offset : Span)
  | metatask (name : String)
  | data (check : DataCheck)
  | cycleMissing (offset : Span)

namespace Step

/-- Making a call. -/
def run : Step → Prerequisites → Prerequisites
  | .add d, p => p.add d
  | .addIf cond d, p => p.addIf cond d
  | .addOpt d, p => p.addOpt d
  | .task n, p => p.task n
  | .taskIf cond n, p => p.taskIf cond n
  | .taskAt n o, p => p.taskAt n o
  | .metatask n, p => p.metatask n
  | .data c, p => p.data c
  | .cycleMissing o, p => p.cycleMissing o

/-- The children a call adds: its child, or nothing when its switch is off or it has no
child to give. -/
def added : Step → List Dependency
  | .add d => [d]
  | .addIf cond d => if cond then [d] else []
  | .addOpt d => d.toList
  | .task n => [.peer n]
  | .taskIf cond n => if cond then [.peer n] else []
  | .taskAt n o => [.peerAt n o]
  | .metatask n => [.metatask n]
  | .data c => [.artifact c]
  | .cycleMissing o => [.cycleExists o true]

/-- A call appends what it adds and moves no child added before it. -/
theorem children_run (s : Step) (p : Prerequisites) :
    (s.run p).children = p.children ++ s.added := by
  cases s <;> simp [run, added]

end Step

/-- The builder after a sequence of calls, from nothing gathered. -/
def build (steps : List Step) : Prerequisites := steps.foldl (fun p s => s.run p) empty

/-- The children a sequence of calls adds, in the order of the calls. -/
def addedBy (steps : List Step) : List Dependency := steps.flatMap Step.added

/-- Calls made after some children were gathered append theirs behind them. -/
theorem children_foldl_run (steps : List Step) (p : Prerequisites) :
    (steps.foldl (fun p s => s.run p) p).children = p.children ++ addedBy steps := by
  induction steps generalizing p with
  | nil => simp [addedBy]
  | cons s steps ih =>
    rw [List.foldl_cons, ih, Step.children_run]
    simp only [addedBy, List.flatMap_cons, List.append_assoc]

theorem children_build (steps : List Step) : (build steps).children = addedBy steps := by
  rw [build, children_foldl_run, children_empty, List.nil_append]

/-- After any sequence of calls the builder holds exactly the children the calls added, in
order. Closing with `all` (`any`) gives nothing when there are none, and otherwise a dependency
that holds exactly when all (some) of them hold; closing with `none` gives nothing when there
are none, and otherwise a `nor` node over exactly those children, which holds when none of them
does. Every closing keeps their conditions in order. -/
theorem build_closings_keep_meaning (steps : List Step) :
    (build steps).children = addedBy steps ∧
    (build steps).all.map (holds v) =
      (if addedBy steps = [] then Option.none else some ((addedBy steps).all (holds v))) ∧
    (build steps).any.map (holds v) =
      (if addedBy steps = [] then Option.none else some ((addedBy steps).any (holds v))) ∧
    (build steps).none =
      (if addedBy steps = [] then Option.none else some (.noneOf (addedBy steps))) ∧
    (build steps).none.map (holds v) =
      (if addedBy steps = [] then Option.none else some (!(addedBy steps).any (holds v))) ∧
    leavesOf (build steps).all = (addedBy steps).flatMap leaves ∧
    leavesOf (build steps).any = (addedBy steps).flatMap leaves ∧
    leavesOf (build steps).none = (addedBy steps).flatMap leaves := by
  have hc := children_build steps
  refine ⟨hc, ?_, ?_, ?_, ?_, ?_, ?_, ?_⟩
  · rw [map_holds_all, hc]
  · rw [map_holds_any, hc]
  · rw [none_eq, hc]
  · rw [map_holds_none, hc]
  · rw [leavesOf_all, hc]
  · rw [leavesOf_any, hc]
  · rw [leavesOf_none, hc]

end Prerequisites

end CycledWorkflow
