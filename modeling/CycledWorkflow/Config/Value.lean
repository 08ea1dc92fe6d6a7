import CycledWorkflow.Binary64.Shortest
/-!
# Configuration values

A configuration value is a boolean, a 64-bit integer, a binary64 float or a text. Its text
form, used wherever a value is read as text and in error messages, is `true` or `false`, the
decimal integer, the float's positional text (shortest digits, no exponent: `4.0` is `4`),
or the text itself.
-/

namespace CycledWorkflow.Config

/-- A value of a configuration key. -/
inductive Value where
  /-- A boolean. -/
  | bool (b : Bool)
  /-- An integer in the signed 64-bit range. -/
  | int (i : Int)
  /-- A float. -/
  | float (x : Binary64)
  /-- A text. -/
  | text (s : String)
  deriving DecidableEq, Repr

namespace Value

/-- The text form of a value. -/
def display : Value → String
  | .bool b => if b then "true" else "false"
  | .int i => if i < 0 then "-" ++ toString i.natAbs else toString i.natAbs
  | .float x => x.positionalText
  | .text s => s

/-- A text is its own text form. -/
@[simp] theorem display_text (s : String) : (Value.text s).display = s := rfl

end Value

end CycledWorkflow.Config
