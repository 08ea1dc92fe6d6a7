/-!
# Same-cycle precedence

Within one cycle the dependencies between entries must admit an order: the precedence graph
(an edge from the referenced entry to the dependent one) must have no loop. When it has one,
the loop is reported at a definite node, the one where the following two-pass search first
meets it.

The graph keeps its nodes in the order they were first mentioned, and each node keeps its
links in the order they were made: an edge `a → b` adds an outgoing link to `b` at `a` and an
incoming link to `a` at `b` (an edge from a node to itself adds only the outgoing one). An edge
made twice is kept once.

1. *Finishing order.* From each node in order that is not yet discovered, a depth-first search
   with an explicit stack looks at the top node: the first time, it is discovered and its
   outgoing links are pushed in order (unless discovered already); a link to itself ends the
   search with that node. The next time, it is popped and, once per node, appended to the
   finishing order.
2. *Backward reach.* Over the reversed finishing order, with the discovered marks cleared, a
   search from each node follows incoming links; the first node it reaches besides its start
   lies on a loop and is reported.

Both searches run on fuel that bounds their steps: every step discovers a node or pops one of
at most `nodes + edges` pushes.
-/

namespace CycledWorkflow

/-- A precedence graph among named entries. -/
structure Precedence where
  /-- The nodes, in the order of first mention. -/
  nodes : List String := []
  /-- The edges made, each once. -/
  edges : List (String × String) := []
  /-- For each node its links, in the order made: the other end, and whether it is outgoing. -/
  links : List (String × List (String × Bool)) := []
  deriving DecidableEq, Repr

namespace Precedence

/-- The graph with a node, mentioned for the first time or not. -/
def addNode (p : Precedence) (n : String) : Precedence :=
  if p.nodes.contains n then p else { p with nodes := p.nodes ++ [n], links := p.links ++ [(n, [])] }

/-- Adding a link at a node. -/
def appendLink (n : String) (l : String × Bool) :
    List (String × List (String × Bool)) → List (String × List (String × Bool))
  | [] => []
  | (m, ls) :: rest => if m = n then (m, ls ++ [l]) :: rest else (m, ls) :: appendLink n l rest

/-- The graph with an edge from `a` to `b`. -/
def addEdge (p : Precedence) (a b : String) : Precedence :=
  if p.edges.contains (a, b) then p
  else
    let p := (p.addNode a).addNode b
    let links := appendLink a (b, true) p.links
    let links := if a = b then links else appendLink b (a, false) links
    { p with edges := p.edges ++ [(a, b)], links }

/-- The links of a node. -/
def linksOf (p : Precedence) (n : String) : List (String × Bool) :=
  ((p.links.find? (·.1 == n)).map (·.2)).getD []

/-- The nodes an edge leads to from `n`, in link order. -/
def outgoing (p : Precedence) (n : String) : List String :=
  (p.linksOf n).filterMap fun (m, out) => if out || m == n then some m else none

/-- The nodes with an edge into `n`, in link order. -/
def incoming (p : Precedence) (n : String) : List String :=
  (p.linksOf n).filterMap fun (m, out) => if !out || m == n then some m else none

/-- Pushing, in order, the nodes not yet discovered onto a stack whose top is its head. -/
def pushUndiscovered (discovered : List String) (ns : List String) (stack : List String) :
    List String :=
  ns.foldl (fun st m => if discovered.contains m then st else m :: st) stack

/-- The state of the finishing-order search. -/
structure Finishing where
  /-- The stack, top first. -/
  stack : List String
  /-- The discovered nodes. -/
  discovered : List String
  /-- The finished nodes, in finishing order. -/
  finished : List String

/-- Running the finishing-order search until its stack is empty; a node linked to itself
ends it. -/
def finish (p : Precedence) : Nat → Finishing → Except String Finishing
  | 0, s => .ok s
  | fuel + 1, s =>
    match s.stack with
    | [] => .ok s
    | nx :: rest =>
      if s.discovered.contains nx then
        let finished := if s.finished.contains nx then s.finished else s.finished ++ [nx]
        finish p fuel ⟨rest, s.discovered, finished⟩
      else
        let succs := p.outgoing nx
        if succs.contains nx then .error nx
        else
          let discovered := s.discovered ++ [nx]
          finish p fuel ⟨pushUndiscovered discovered succs s.stack, discovered, s.finished⟩

/-- The finishing order of the whole graph, or a node linked to itself. -/
def finishingOrder (p : Precedence) : Except String (List String) := do
  let fuel := 2 * (p.nodes.length + p.edges.length) + 1
  let step := fun (s : Finishing) (i : String) =>
    if s.discovered.contains i then pure s else finish p fuel ⟨[i], s.discovered, s.finished⟩
  let s ← p.nodes.foldlM step ⟨[], [], []⟩
  return s.finished

/-- The backward search from one start: the discovered nodes after it, or the first node it
reaches besides the start. -/
def reachBack (p : Precedence) : Nat → List String → List String → Bool →
    Except String (List String)
  | 0, _, d, _ => .ok d
  | _ + 1, [], d, _ => .ok d
  | fuel + 1, j :: rest, d, started =>
    if d.contains j then reachBack p fuel rest d started
    else if started then .error j
    else
      let d := d ++ [j]
      reachBack p fuel (pushUndiscovered d (p.incoming j) rest) d true

/-- The node where a loop is reported, if the graph has one. -/
def loopNode? (p : Precedence) : Option String :=
  match p.finishingOrder with
  | .error n => some n
  | .ok order =>
    let fuel := 2 * (p.nodes.length + p.edges.length) + 1
    let r := order.reverse.foldlM (fun d i => reachBack p fuel [i] d false) []
    match r with
    | .error n => some n
    | .ok _ => none

end Precedence

end CycledWorkflow
