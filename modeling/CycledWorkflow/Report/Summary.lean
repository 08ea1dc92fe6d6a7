import CycledWorkflow.Graph.Basic
/-!
# The graph summary

A readable account of a compiled graph: a header with the mode, experiment name, time made
and settings; the running cadences; then each group with its entries. An entry shows its
cadence (a metatask also its variable, values and member), its resources, and what it waits
for.

Every line ends with a newline.
-/

namespace CycledWorkflow

namespace Report

/-- The line of a running cadence. -/
def summaryCadenceLine (c : Cadence) : String :=
  "  - " ++ c.id.name ++ ": " ++ c.start.ymdh ++ " .. " ++ c.finish.ymdh ++ " every " ++
    c.interval.hms ++ "\n"

/-- The resources line of a node. -/
def resourcesLine (r : Resources) : String :=
  "      resources: " ++ toString r.cores ++ " cores on " ++ toString r.nodes ++ " nodes (" ++
    toString r.ppn ++ " ppn, " ++ toString r.threads ++ " threads), " ++ r.walltime ++
    " queue " ++ r.queue ++ "\n"

/-- The line of what a node waits for; nothing when it waits for nothing. -/
def afterLine : Option Dependency → String
  | some d => "      after: " ++ d.render ++ "\n"
  | none => ""

/-- The lines of an entry. -/
def entryLines (e : Entry) : String :=
  let n := e.node
  let head := match e with
    | .task _ => "  - " ++ n.name ++ " [" ++ n.cadence.name ++ "]\n"
    | .metatask f _ =>
      "  - " ++ f.metatask ++ " [" ++ n.cadence.name ++ "] over " ++ f.var ++ " = " ++
        " ".intercalate f.values ++ "\n" ++ "      member: " ++ n.name ++ "\n"
  head ++ resourcesLine n.resources ++ afterLine n.dependency

/-- The lines of a group. -/
def groupLines (grp : EntryGroup) : String :=
  "\n" ++ grp.group.label ++ " (" ++ toString grp.entries.length ++ " entries):\n" ++
    String.join (grp.entries.map entryLines)

/-- The summary of a graph. -/
def summary (g : Graph) : String :=
  let s := g.settings
  "cycledag graph (" ++ g.mode.name ++ ")\n" ++
    "  pslot = " ++ g.pslot ++ ", generated at " ++ g.generatedAt ++ "\n" ++
    "  cyclethrottle = " ++ toString s.cycleThrottle ++ ", taskthrottle = " ++
      toString s.taskThrottle ++ ", maxtries = " ++ toString s.maxTries ++ "\n" ++
    "\n" ++
    "cadences (" ++ toString g.cadences.length ++ "):\n" ++
    String.join (g.cadences.map summaryCadenceLine) ++
    String.join (g.groups.map groupLines)

end Report

end CycledWorkflow
