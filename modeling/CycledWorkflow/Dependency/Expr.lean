import CycledWorkflow.Time.Span
/-!
# Dependency expressions

What a task waits for, as a tree. A leaf is one condition: another task or metatask having
finished (in this cycle, or in the cycle an offset away), a file being present (its path
template at an offset, optionally followed by a suffix template at its own offset, and
optionally at least a minimum age), the cycle an offset away existing or not, or two texts
being equal. An inner node joins its children with all of them (`and`), any of them (`or`)
or none of them (`nor`).

A dependency is written compactly: `task gdasfcst@-06:00:00`, `data PATH+SUFFIX age>=…`,
`no-cycle@-06:00:00`, `streq(a, b)`, `and(child, child)`. An offset of zero is not written.
-/

namespace CycledWorkflow

/-- How an inner node joins its children. -/
inductive Combinator where
  /-- All children hold. -/
  | all
  /-- At least one child holds. -/
  | any
  /-- No child holds. -/
  | none
  deriving DecidableEq, Repr

namespace Combinator

/-- The word a combinator is written as. -/
def keyword : Combinator → String
  | .all => "and"
  | .any => "or"
  | .none => "nor"

/-- The name of a combinator in the interchange form. -/
def name : Combinator → String
  | .all => "all"
  | .any => "any"
  | .none => "none"

end Combinator

/-- A path template at an optional cycle offset. -/
structure TimedPath where
  /-- The template. -/
  template : String
  /-- The offset of the cycle whose fields fill it, if not the current one. -/
  offset : Option Span
  deriving DecidableEq, Repr

/-- A file a task waits for. -/
structure DataCheck where
  /-- The path. -/
  path : TimedPath
  /-- A suffix appended to the path, filled at its own offset. -/
  suffix : Option TimedPath
  /-- The least age the file must have. -/
  minAge : Option Span
  deriving DecidableEq, Repr

namespace DataCheck

/-- A check of a file at a path of the current cycle. -/
def new (path : String) : DataCheck := ⟨⟨path, none⟩, none, none⟩

/-- The same check at a cycle offset. -/
def atOffset (c : DataCheck) (d : Span) : DataCheck := { c with path := { c.path with offset := some d } }

/-- The same check with a suffix of the current cycle. -/
def withSuffix (c : DataCheck) (t : String) : DataCheck := { c with suffix := some ⟨t, none⟩ }

/-- The same check with a suffix at a cycle offset. -/
def withSuffixAt (c : DataCheck) (t : String) (d : Span) : DataCheck :=
  { c with suffix := some ⟨t, some d⟩ }

/-- The same check with a least age. -/
def withMinAge (c : DataCheck) (d : Span) : DataCheck := { c with minAge := some d }

/-- The templates of a check: the path, then the suffix. -/
def templates (c : DataCheck) : List String :=
  c.path.template :: (c.suffix.map (·.template)).toList

end DataCheck

/-- One condition of a dependency. -/
inductive Predicate where
  /-- A task has finished. -/
  | task (name : String) (offset : Option Span)
  /-- Every member of a metatask has finished. -/
  | metatask (name : String) (offset : Option Span)
  /-- A file is present. -/
  | data (check : DataCheck)
  /-- The cycle an offset away exists (or, negated, does not). -/
  | cycleExists (offset : Span) (negate : Bool)
  /-- Two texts are equal. -/
  | strEq (left right : String)
  deriving DecidableEq, Repr

namespace Predicate

/-- The name and offset a task or metatask condition refers to. -/
def reference : Predicate → Option (String × Option Span)
  | .task name offset | .metatask name offset => some (name, offset)
  | _ => none

/-- Whether a condition refers to a metatask. -/
def isMetatask : Predicate → Bool
  | .metatask _ _ => true
  | _ => false

/-- The offset mark of a condition: `@` and the offset, unless it is absent or zero. -/
def offsetMark : Option Span → String
  | some d => if d.seconds = 0 then "" else "@" ++ d.hms
  | none => ""

/-- The compact text of a condition. -/
def render : Predicate → String
  | .task name offset => "task " ++ name ++ offsetMark offset
  | .metatask name offset => "metatask " ++ name ++ offsetMark offset
  | .data c =>
    "data " ++ c.path.template ++ offsetMark c.path.offset ++
      (match c.suffix with
       | some s => "+" ++ s.template ++ offsetMark s.offset
       | none => "") ++
      (match c.minAge with
       | some a => " age>=" ++ a.hms
       | none => "")
  | .cycleExists offset negate => (if negate then "no-cycle@" else "cycle@") ++ offset.hms
  | .strEq left right => "streq(" ++ left ++ ", " ++ right ++ ")"

end Predicate

/-- A dependency: a condition, or conditions joined. -/
inductive Dependency where
  /-- A single condition. -/
  | leaf (p : Predicate)
  /-- Children joined by a combinator. -/
  | node (op : Combinator) (children : List Dependency)
  deriving Repr

namespace Dependency

/-- Waiting for a task of the same cycle. -/
def peer (name : String) : Dependency := .leaf (.task name none)

/-- Waiting for a task of the cycle an offset away. -/
def peerAt (name : String) (d : Span) : Dependency := .leaf (.task name (some d))

/-- Waiting for a metatask of the same cycle. -/
def metatask (name : String) : Dependency := .leaf (.metatask name none)

/-- Waiting for a metatask of the cycle an offset away. -/
def metataskAt (name : String) (d : Span) : Dependency := .leaf (.metatask name (some d))

/-- Waiting for a file. -/
def artifact (c : DataCheck) : Dependency := .leaf (.data c)

/-- Waiting for the cycle an offset away to exist, or not to. -/
def cycleExists (d : Span) (negate : Bool) : Dependency := .leaf (.cycleExists d negate)

/-- Waiting for two texts to be equal. -/
def stringEq (left right : String) : Dependency := .leaf (.strEq left right)

/-- All of the children. -/
def allOf (children : List Dependency) : Dependency := .node .all children

/-- Any of the children. -/
def anyOf (children : List Dependency) : Dependency := .node .any children

/-- None of the children. -/
def noneOf (children : List Dependency) : Dependency := .node .none children

/-- The combinator of an inner node. -/
def combinator? : Dependency → Option Combinator
  | .leaf _ => none
  | .node op _ => some op

/-- The direct children: none for a leaf. -/
def children : Dependency → List Dependency
  | .leaf _ => []
  | .node _ cs => cs

mutual

/-- The conditions of a dependency, depth first from the left. -/
def leaves : Dependency → List Predicate
  | .leaf p => [p]
  | .node _ cs => leavesOfList cs

/-- The conditions of a list of dependencies, in order. -/
def leavesOfList : List Dependency → List Predicate
  | [] => []
  | d :: ds => leaves d ++ leavesOfList ds

end

mutual

/-- The compact text of a dependency. -/
def render : Dependency → String
  | .leaf p => p.render
  | .node op cs => op.keyword ++ "(" ++ renderList cs ++ ")"

/-- The texts of dependencies, separated by commas. -/
def renderList : List Dependency → String
  | [] => ""
  | [d] => render d
  | d :: ds => render d ++ ", " ++ renderList ds

end

/-- The task and metatask references of a dependency, depth first. -/
def references (d : Dependency) : List (String × Option Span) := d.leaves.filterMap Predicate.reference

/-- The leaves of a node are those of its children, in order. -/
theorem leaves_node (op : Combinator) (cs : List Dependency) :
    (Dependency.node op cs).leaves = cs.flatMap leaves := by
  rw [leaves]
  induction cs with
  | nil => rfl
  | cons d ds ih => simp [leavesOfList, ih]

end Dependency

end CycledWorkflow
