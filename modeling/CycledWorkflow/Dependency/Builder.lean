import CycledWorkflow.Dependency.Expr
/-!
# Building dependencies

A task's dependency is gathered child by child, some children only under a condition, and
then closed with a combinator. Closing with `all` or `any` gives nothing for no children and
the child itself for one; closing with `none` gives nothing for no children and always a
node otherwise, since a single negated child still needs its node.
-/

namespace CycledWorkflow

/-- The children of a dependency gathered so far, in order. -/
structure Prerequisites where
  /-- The children, in the order they were added. -/
  children : List Dependency := []
  deriving Repr

namespace Prerequisites

/-- Nothing gathered yet. -/
def empty : Prerequisites := {}

/-- Adding a child. -/
def add (p : Prerequisites) (d : Dependency) : Prerequisites := ⟨p.children ++ [d]⟩

/-- Adding a child when a condition holds. -/
def addIf (p : Prerequisites) (cond : Bool) (d : Dependency) : Prerequisites :=
  if cond then p.add d else p

/-- Adding a child if there is one. -/
def addOpt (p : Prerequisites) : Option Dependency → Prerequisites
  | some d => p.add d
  | none => p

/-- Adding a task of the same cycle. -/
def task (p : Prerequisites) (name : String) : Prerequisites := p.add (.peer name)

/-- Adding a task of the same cycle when a condition holds. -/
def taskIf (p : Prerequisites) (cond : Bool) (name : String) : Prerequisites :=
  p.addIf cond (.peer name)

/-- Adding a task of the cycle an offset away. -/
def taskAt (p : Prerequisites) (name : String) (d : Span) : Prerequisites := p.add (.peerAt name d)

/-- Adding a metatask of the same cycle. -/
def metatask (p : Prerequisites) (name : String) : Prerequisites := p.add (.metatask name)

/-- Adding a file. -/
def data (p : Prerequisites) (c : DataCheck) : Prerequisites := p.add (.artifact c)

/-- Adding the absence of the cycle an offset away. -/
def cycleMissing (p : Prerequisites) (d : Span) : Prerequisites := p.add (.cycleExists d true)

/-- The number of children. -/
def len (p : Prerequisites) : Nat := p.children.length

/-- Whether no child was added. -/
def isEmpty (p : Prerequisites) : Bool := p.children.isEmpty

/-- Closing with a combinator that a single child needs not: nothing, the child, or a node. -/
def close (op : Combinator) : List Dependency → Option Dependency
  | [] => none
  | [d] => some d
  | cs => some (.node op cs)

/-- All of the children. -/
def all (p : Prerequisites) : Option Dependency := close .all p.children

/-- Any of the children. -/
def any (p : Prerequisites) : Option Dependency := close .any p.children

/-- None of the children; a single child keeps its node. -/
def none (p : Prerequisites) : Option Dependency :=
  if p.children.isEmpty then Option.none else some (.node .none p.children)

end Prerequisites

end CycledWorkflow
