import CycledWorkflow.Dependency.Expr
import CycledWorkflow.Json.Value
/-!
# Dependencies as JSON

The interchange form of a dependency. A condition is an object tagged by `kind` (`task`,
`metatask`, `data`, `cycle_exist`, `str_eq`) with its fields; offsets and ages are written
`[-]HH:MM:SS` and left out when absent. An inner node is an object with `op` (`all`, `any`,
`none`) and `children`.
-/

namespace CycledWorkflow

/-- An optional member, left out when absent. -/
def Json.optMember (name : String) : Option Json.Value → List (String × Json.Value)
  | some v => [(name, v)]
  | none => []

/-- The JSON form of a timed path. -/
def TimedPath.toJson (p : TimedPath) : Json.Value :=
  .obj ([("template", .str p.template)] ++ Json.optMember "offset" (p.offset.map (.str ·.hms)))

/-- The JSON form of a condition. -/
def Predicate.toJson : Predicate → Json.Value
  | .task name offset =>
    .obj ([("kind", .str "task"), ("name", .str name)] ++
      Json.optMember "offset" (offset.map (.str ·.hms)))
  | .metatask name offset =>
    .obj ([("kind", .str "metatask"), ("name", .str name)] ++
      Json.optMember "offset" (offset.map (.str ·.hms)))
  | .data c =>
    .obj ([("kind", .str "data"), ("path", c.path.toJson)] ++
      Json.optMember "suffix" (c.suffix.map TimedPath.toJson) ++
      Json.optMember "min_age" (c.minAge.map (.str ·.hms)))
  | .cycleExists offset negate =>
    .obj [("kind", .str "cycle_exist"), ("offset", .str offset.hms), ("negate", .bool negate)]
  | .strEq left right => .obj [("kind", .str "str_eq"), ("left", .str left), ("right", .str right)]

mutual

/-- The JSON form of a dependency. -/
def Dependency.toJson : Dependency → Json.Value
  | .leaf p => p.toJson
  | .node op cs => .obj [("op", .str op.name), ("children", .arr (Dependency.listToJson cs))]

/-- The JSON forms of a list of dependencies. -/
def Dependency.listToJson : List Dependency → List Json.Value
  | [] => []
  | d :: ds => d.toJson :: Dependency.listToJson ds

end

end CycledWorkflow
