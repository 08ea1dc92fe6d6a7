import CycledWorkflow.Binary64
/-!
# TOML documents as trees

A TOML document is a table of keys. A value given with `=` is closed: strings, integers,
floats, booleans, date-times, arrays and inline tables. Tables also arise from headers
(`[a.b]`), as the path to a header (`a` above), from dotted keys (`a.b = 1`), and as the items
of an array of tables (`[[a]]`).

How a table arose decides what may still be done to it:

* a header may name a table only once, and never one made by dotted keys;
* a table that is only on the way to a header may later get its own header;
* dotted keys extend only tables that dotted keys made;
* a key holds one value, and a closed value is never extended.

A header path passes through an array of tables by its last item.
-/

namespace CycledWorkflow.Toml

/-- A value given with `=`. -/
inductive Value where
  | string (s : String)
  /-- An integer, within the signed and unsigned 128-bit ranges. -/
  | integer (i : Int)
  | float (x : Binary64)
  | boolean (b : Bool)
  /-- An offset or local date-time, local date or local time, as written. -/
  | datetime (text : String)
  | array (items : List Value)
  | table (entries : List (String × Value))
  deriving Repr

/-- How a table came about. -/
inductive Origin where
  /-- On the path to a header. -/
  | implicit
  /-- Named by a header. -/
  | header
  /-- Made by dotted keys. -/
  | dotted
  deriving DecidableEq, Repr

/-- A node of a document tree. -/
inductive Node where
  | leaf (v : Value)
  | table (origin : Origin) (entries : List (String × Node))
  | tables (items : List (List (String × Node)))
  deriving Repr

/-- The entries of a table. -/
abbrev Entries := List (String × Node)

/-- The node of a key. -/
def find? (k : String) (es : Entries) : Option Node := (es.find? (·.1 == k)).map (·.2)

/-- The entries with the node of a key replaced, or the key added at the end. -/
def setEntry (k : String) (n : Node) : Entries → Entries
  | [] => [(k, n)]
  | (k', m) :: rest => if k' = k then (k, n) :: rest else (k', m) :: setEntry k n rest

/-- Applying a change to the table at a path, making missing tables on the way; an array of
tables is entered by its last item. -/
def descend (f : Entries → Except String Entries) : List String → Entries → Except String Entries
  | [], es => f es
  | k :: rest, es =>
    match find? k es with
    | none => do return setEntry k (.table .implicit (← descend f rest [])) es
    | some (.table o sub) => do return setEntry k (.table o (← descend f rest sub)) es
    | some (.tables items) =>
      match items.getLast? with
      | some last => do return setEntry k (.tables (items.dropLast ++ [← descend f rest last])) es
      | none => .error ("empty array of tables " ++ k)
    | some (.leaf _) => .error ("key " ++ k ++ " is not a table")

/-- Naming a table by a header. -/
def defineTable (k : String) (es : Entries) : Except String Entries :=
  match find? k es with
  | none => pure (setEntry k (.table .header []) es)
  | some (.table .implicit sub) => pure (setEntry k (.table .header sub) es)
  | some _ => .error ("table " ++ k ++ " defined twice")

/-- Adding an item to an array of tables. -/
def defineItem (k : String) (es : Entries) : Except String Entries :=
  match find? k es with
  | none => pure (setEntry k (.tables [[]]) es)
  | some (.tables items) => pure (setEntry k (.tables (items ++ [[]])) es)
  | some _ => .error ("key " ++ k ++ " is not an array of tables")

/-- Setting a dotted key to a value. -/
def insertDotted (v : Value) : List String → Entries → Except String Entries
  | [], _ => .error "empty key"
  | [k], es =>
    match find? k es with
    | none => pure (setEntry k (.leaf v) es)
    | some _ => .error ("duplicate key " ++ k)
  | k :: rest, es =>
    match find? k es with
    | none => do return setEntry k (.table .dotted (← insertDotted v rest [])) es
    | some (.table .dotted sub) => do return setEntry k (.table .dotted (← insertDotted v rest sub)) es
    | some _ => .error ("key " ++ k ++ " cannot be extended")

mutual
/-- The closed value of a node. -/
def Node.freeze : Node → Value
  | .leaf v => v
  | .table _ es => .table (freezeEntries es)
  | .tables items => .array (freezeItems items)

/-- The closed values of entries. -/
def freezeEntries : Entries → List (String × Value)
  | [] => []
  | (k, n) :: rest => (k, n.freeze) :: freezeEntries rest

/-- The closed values of the items of an array of tables. -/
def freezeItems : List Entries → List Value
  | [] => []
  | es :: rest => .table (freezeEntries es) :: freezeItems rest
end

end CycledWorkflow.Toml
