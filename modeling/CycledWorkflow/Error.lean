/-!
# Errors

The causes for which compiling an experiment stops, each with the facts a reader needs, and
the one sentence each is reported as.
-/

namespace CycledWorkflow

/-- Why an experiment could not be compiled. -/
inductive WorkflowError where
  /-- A configuration that breaks a rule of its own, described in words. -/
  | config (detail : String)
  /-- A mode name that names no mode, as normalized for matching. -/
  | unknownMode (text : String)
  /-- A required key that a scope lacks. -/
  | missingKey (scope key : String)
  /-- A value that does not have the expected form. -/
  | invalidValue (key value expected : String)
  /-- A dependency on a task or metatask that the graph does not hold. -/
  | unknownReference (task reference : String)
  /-- Dependencies within one cycle that loop. -/
  | dependencyCycle (detail : String)
  /-- A fan-out whose values or side tables do not fit together. -/
  | invalidFanOut (task reason : String)
  /-- A sum of machine words that does not fit the word: the computation stops there instead
  of wrapping around. -/
  | addOverflow
  deriving DecidableEq, Repr

namespace WorkflowError

/-- The sentence an error is reported as. -/
def message : WorkflowError → String
  | .config detail => "Configuration error: " ++ detail
  | .unknownMode text =>
    "Unknown mode '" ++ text ++
      "' (expected one of: cycled, forecast-only, replay, omf, ens-regrid)"
  | .missingKey scope key => "Missing required key '" ++ key ++ "' in " ++ scope
  | .invalidValue key value expected =>
    "Invalid value for '" ++ key ++ "': '" ++ value ++ "' (expected " ++ expected ++ ")"
  | .unknownReference task reference =>
    "Task '" ++ task ++ "' references unknown task or metatask '" ++ reference ++ "'"
  | .dependencyCycle detail => "Dependency cycle detected: " ++ detail
  | .invalidFanOut task reason => "Invalid fan-out for task '" ++ task ++ "': " ++ reason
  | .addOverflow => "attempt to add with overflow"

end WorkflowError

/-- A computation that may stop with a workflow error. -/
abbrev Outcome (α : Type) := Except WorkflowError α

end CycledWorkflow
