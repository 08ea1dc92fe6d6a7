import CycledWorkflow.Binary64
/-!
# JSON documents

A JSON document as a tree. Numbers keep the distinction that readers of the format draw: a
whole number written without a fraction or an exponent, in the range of a signed or unsigned
64-bit word, is an integer; every other number is a binary64 float. Object members keep the
order in which they were written; a lookup takes the last member of a name, so a later
member overrides an earlier one.
-/

namespace CycledWorkflow.Json

/-- A JSON document. -/
inductive Value where
  /-- The null value. -/
  | null
  /-- A boolean. -/
  | bool (b : Bool)
  /-- An integer that fits a signed or unsigned 64-bit word. -/
  | int (i : Int)
  /-- Any other number. -/
  | float (x : Binary64)
  /-- A string. -/
  | str (s : String)
  /-- An array. -/
  | arr (items : List Value)
  /-- An object, its members in written order. -/
  | obj (members : List (String × Value))
  deriving Repr, Inhabited

namespace Value

/-- The last member of a name in a member list. -/
def lookupLast (name : String) : List (String × Value) → Option Value
  | [] => none
  | (k, v) :: rest =>
    match lookupLast name rest with
    | some w => some w
    | none => if k = name then some v else none

/-- The member of an object with the given name; `none` for other documents. -/
def get? (v : Value) (name : String) : Option Value :=
  match v with
  | .obj members => lookupLast name members
  | _ => none

/-- The text of a string document. -/
def getStr? : Value → Option String
  | .str s => some s
  | _ => none

/-- The value of an integer document. -/
def getInt? : Value → Option Int
  | .int i => some i
  | _ => none

/-- The value of a boolean document. -/
def getBool? : Value → Option Bool
  | .bool b => some b
  | _ => none

/-- The items of an array document. -/
def getArr? : Value → Option (List Value)
  | .arr items => some items
  | _ => none

/-- The members of an object document. -/
def getObj? : Value → Option (List (String × Value))
  | .obj members => some members
  | _ => none

/-- Whether a document is null. -/
def isNull : Value → Bool
  | .null => true
  | _ => false

mutual

/-- How deeply arrays and objects nest in a document: none for a scalar, one more than the
deepest item or member for an array or object. -/
def depth : Value → Nat
  | .arr items => itemsDepth items + 1
  | .obj members => membersDepth members + 1
  | _ => 0

/-- The greatest depth of the items of an array. -/
def itemsDepth : List Value → Nat
  | [] => 0
  | v :: rest => max v.depth (itemsDepth rest)

/-- The greatest depth of the members of an object. -/
def membersDepth : List (String × Value) → Nat
  | [] => 0
  | (_, v) :: rest => max v.depth (membersDepth rest)

end

end Value

end CycledWorkflow.Json
