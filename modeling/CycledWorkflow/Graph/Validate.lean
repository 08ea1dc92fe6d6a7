import CycledWorkflow.Dependency.Template
import CycledWorkflow.Graph.Basic
import CycledWorkflow.Graph.Order
/-!
# Checking a workflow graph

A graph is sound when, in this order of checking:

1. every placeholder in a binding is a cycle field or another binding;
2. every task or metatask a dependency names is an entry of that kind;
3. every placeholder in an entry's texts (name, script, job name, log, text variables, data
   paths and compared strings) is a cycle field, a binding or, for a metatask, one of its
   variables;
4. the dependencies within one cycle (those without an offset, or with a zero one) admit an
   order.

The first failure is reported.
-/

namespace CycledWorkflow

namespace Graph

/-- The names of the bindings. -/
def bindingNames (g : Graph) : List String := g.bindings.map Prod.fst

/-- The text of a placeholder as written in a template. -/
def placeholderText (name : String) : String := "$\x7b" ++ name ++ "\x7d"

/-- The first binding with a placeholder that is neither a cycle field nor a binding. -/
def unknownInBindings (bindings : List (String × String)) : Option (String × String) :=
  let names := bindings.map Prod.fst
  bindings.findSome? fun (name, value) =>
    ((Template.placeholders value).find? fun p =>
      !(Template.cycleFields.contains p || names.contains p)).map (name, ·)

/-- Checking the bindings. -/
def checkBindings (g : Graph) : Outcome Unit :=
  match unknownInBindings g.bindings with
  | some (name, p) =>
    throw (.config ("binding '" ++ name ++ "' uses unknown placeholder '" ++ placeholderText p ++
      "'"))
  | none => pure ()

/-- The first reference of an entry's dependency to no entry of its kind. -/
def unknownReference (tasks metatasks : List String) (e : Entry) : Option String :=
  match e.node.dependency with
  | none => none
  | some d =>
    d.leaves.findSome? fun leaf =>
      match leaf.reference with
      | none => none
      | some (r, _) =>
        let known := if leaf.isMetatask then metatasks.contains r else tasks.contains r
        if known then none else some r

/-- Checking that every reference names an entry of its kind. -/
def checkReferences (g : Graph) : Outcome Unit :=
  let tasks := g.entries.filterMap fun e => if e.isMetatask then none else some e.name
  let metatasks := g.entries.filterMap fun e => if e.isMetatask then some e.name else none
  match g.entries.findSome? fun e => (unknownReference tasks metatasks e).map (e.name, ·) with
  | some (task, r) => throw (.unknownReference task r)
  | none => pure ()

/-- The texts of an entry that may hold placeholders, each with what it is. -/
def placeholderTexts (n : TaskNode) : List (String × String) :=
  [("name", n.name), ("command", n.command), ("job name", n.jobName), ("log", n.log)] ++
  n.env.filterMap (fun b => match b.value with
    | .text v => some (b.name, v)
    | .cycleTime _ _ => none) ++
  match n.dependency with
  | none => []
  | some d => d.leaves.flatMap fun
    | .data c => c.templates.map ("data dependency", ·)
    | .strEq l r => [("string comparison", l), ("string comparison", r)]
    | _ => []

/-- The placeholders an entry may use. -/
def allowedPlaceholders (g : Graph) : Entry → List String
  | .task _ => Template.cycleFields ++ g.bindingNames
  | .metatask f _ => Template.cycleFields ++ g.bindingNames ++ f.memberVariables

/-- The first unknown placeholder of an entry, with what holds it. -/
def unknownPlaceholder (g : Graph) (e : Entry) : Option (String × String) :=
  let allowed := g.allowedPlaceholders e
  (placeholderTexts e.node).findSome? fun (what, text) =>
    ((Template.placeholders text).find? fun p => !allowed.contains p).map (·, what)

/-- Checking the placeholders of every entry. -/
def checkPlaceholders (g : Graph) : Outcome Unit :=
  match g.entries.findSome? fun e => (g.unknownPlaceholder e).map (e.name, ·) with
  | some (task, p, what) =>
    throw (.config ("task '" ++ task ++ "' uses unknown placeholder '" ++ placeholderText p ++
      "' in its " ++ what))
  | none => pure ()

/-- Whether a reference is within the same cycle: no offset, or a zero one. -/
def sameCycle : Option Span → Bool
  | none => true
  | some d => d.isZero

/-- The same-cycle precedence graph of a list of entries. -/
def precedence (es : List Entry) : Precedence :=
  let p := es.foldl (fun p e => p.addNode e.name) {}
  es.foldl (fun p e =>
    match e.node.dependency with
    | none => p
    | some d => d.references.foldl (fun p (r, offset) =>
        if sameCycle offset then p.addEdge r e.name else p) p) p

/-- Checking that the same-cycle dependencies admit an order. -/
def checkOrder (g : Graph) : Outcome Unit :=
  match (precedence g.entries).loopNode? with
  | some n => throw (.dependencyCycle ("same-cycle dependencies loop through '" ++ n ++ "'"))
  | none => pure ()

/-- Checking a graph. -/
def validate (g : Graph) : Outcome Unit := do
  g.checkBindings
  g.checkReferences
  g.checkPlaceholders
  g.checkOrder

end Graph

end CycledWorkflow
