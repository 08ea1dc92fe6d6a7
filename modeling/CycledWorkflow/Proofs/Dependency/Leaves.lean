import CycledWorkflow.Dependency.Builder
/-!
# The conditions of a built dependency

A task's dependency is gathered child by child and then closed with `all`, `any` or `none`.
Whichever closing is used, and whether it collapses a single child or drops an empty list,
the conditions of the result are those of the children, in the order they were added. The
rules below state this once for the closings and once per way of adding a child, so that the
conditions of a description can be read off its builder chain by rewriting alone.

Main statement: `leavesOf_close` (closing keeps the children's conditions, in order).
-/

namespace CycledWorkflow

namespace Dependency

/-- The conditions of an optional dependency: none when there is nothing to wait for. -/
def leavesOf : Option Dependency → List Predicate
  | none => []
  | some d => d.leaves

@[simp] theorem leavesOf_none : leavesOf none = [] := rfl

@[simp] theorem leavesOf_some (d : Dependency) : leavesOf (some d) = d.leaves := rfl

@[simp] theorem leaves_leaf (p : Predicate) : (Dependency.leaf p).leaves = [p] := rfl

attribute [simp] leaves_node

/-! ### The leaf and node builders -/

@[simp] theorem leaves_peer (n : String) : (peer n).leaves = [.task n none] := rfl

@[simp] theorem leaves_peerAt (n : String) (d : Span) :
    (peerAt n d).leaves = [.task n (some d)] := rfl

@[simp] theorem leaves_metatask (n : String) : (metatask n).leaves = [.metatask n none] := rfl

@[simp] theorem leaves_metataskAt (n : String) (d : Span) :
    (metataskAt n d).leaves = [.metatask n (some d)] := rfl

@[simp] theorem leaves_artifact (c : DataCheck) : (artifact c).leaves = [.data c] := rfl

@[simp] theorem leaves_cycleExists (d : Span) (negate : Bool) :
    (cycleExists d negate).leaves = [.cycleExists d negate] := rfl

@[simp] theorem leaves_stringEq (l r : String) : (stringEq l r).leaves = [.strEq l r] := rfl

@[simp] theorem leaves_allOf (cs : List Dependency) : (allOf cs).leaves = cs.flatMap leaves :=
  leaves_node .all cs

@[simp] theorem leaves_anyOf (cs : List Dependency) : (anyOf cs).leaves = cs.flatMap leaves :=
  leaves_node .any cs

@[simp] theorem leaves_noneOf (cs : List Dependency) : (noneOf cs).leaves = cs.flatMap leaves :=
  leaves_node .none cs

end Dependency

namespace Prerequisites

open Dependency (leavesOf leaves)

/-! ### Closing -/

/-- Closing keeps the children's conditions, in order: an empty list closes to nothing, a
single child to itself, and more children to a node over them. -/
theorem leavesOf_close (op : Combinator) (cs : List Dependency) :
    leavesOf (close op cs) = cs.flatMap leaves := by
  match cs with
  | [] => rfl
  | [d] => simp [close]
  | d :: e :: rest => simp [close]

@[simp] theorem leavesOf_all (p : Prerequisites) : leavesOf p.all = p.children.flatMap leaves :=
  leavesOf_close .all p.children

@[simp] theorem leavesOf_any (p : Prerequisites) : leavesOf p.any = p.children.flatMap leaves :=
  leavesOf_close .any p.children

@[simp] theorem leavesOf_none (p : Prerequisites) :
    leavesOf p.none = p.children.flatMap leaves := by
  unfold Prerequisites.none
  split
  · next h =>
    rw [List.isEmpty_iff] at h
    simp [h]
  · exact Dependency.leaves_node .none p.children

/-! ### Adding children -/

@[simp] theorem children_empty : empty.children = [] := rfl

@[simp] theorem children_add (p : Prerequisites) (d : Dependency) :
    (p.add d).children = p.children ++ [d] := rfl

@[simp] theorem children_addIf (p : Prerequisites) (cond : Bool) (d : Dependency) :
    (p.addIf cond d).children = p.children ++ if cond then [d] else [] := by
  cases cond <;> simp [addIf]

@[simp] theorem children_addOpt (p : Prerequisites) (d : Option Dependency) :
    (p.addOpt d).children = p.children ++ d.toList := by
  cases d <;> simp [addOpt]

/-- The conditions of a child added under a switch are there exactly when the switch is on. -/
@[simp] theorem flatMap_leaves_ite (cond : Prop) [Decidable cond] (d : Dependency) :
    (if cond then [d] else []).flatMap leaves = if cond then d.leaves else [] := by
  split <;> simp

/-- The conditions of an optional child are those of the child, if any. -/
@[simp] theorem flatMap_leaves_toList (d : Option Dependency) :
    d.toList.flatMap leaves = leavesOf d := by
  cases d <;> simp

@[simp] theorem children_task (p : Prerequisites) (n : String) :
    (p.task n).children = p.children ++ [.peer n] := rfl

@[simp] theorem children_taskIf (p : Prerequisites) (cond : Bool) (n : String) :
    (p.taskIf cond n).children = p.children ++ if cond then [.peer n] else [] :=
  children_addIf p cond (.peer n)

@[simp] theorem children_taskAt (p : Prerequisites) (n : String) (d : Span) :
    (p.taskAt n d).children = p.children ++ [.peerAt n d] := rfl

@[simp] theorem children_metatask (p : Prerequisites) (n : String) :
    (p.metatask n).children = p.children ++ [.metatask n] := rfl

@[simp] theorem children_data (p : Prerequisites) (c : DataCheck) :
    (p.data c).children = p.children ++ [.artifact c] := rfl

@[simp] theorem children_cycleMissing (p : Prerequisites) (d : Span) :
    (p.cycleMissing d).children = p.children ++ [.cycleExists d true] := rfl

end Prerequisites

end CycledWorkflow
