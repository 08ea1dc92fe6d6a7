import CycledWorkflow.Error
import CycledWorkflow.Text.Numeral
/-!
# Fan-outs

A fan-out runs one task once per value of a variable, as the members of a metatask. Side
tables give further variables, one entry per value. A fan-out is sound when it has values
and every side table has as many entries as there are values.

The values come from splitting a domain into groups: `partition` cuts a list into at most as
many consecutive parts as it has elements, the first parts one longer when the division is
uneven. Forecast hours are spaced ranges (`hourRange`), possibly at two rates one after the
other (`twoRateHours`); hour groups are labelled `001`, `002`, … and carry their last hour and
their hours joined by `_`. Ensemble members are grouped by a fixed size, the groups labelled
from a first number with at least two digits.

Hours are signed 64-bit words and group numbers unsigned 32-bit words; a step past either
range stops the computation with `addOverflow`.

Main statement: `partition_shape` (a partition has the requested count of parts, clamped to the
domain's length, consecutive and differing in length by at most one, the longer ones first).
-/

namespace CycledWorkflow

/-- A fan-out: the metatask, its variable, the values and the side tables in name order. -/
structure FanOut where
  /-- The name of the metatask the members belong to. -/
  metatask : String
  /-- The variable that takes each value. -/
  var : String
  /-- The values, one member each. -/
  values : List String
  /-- Further variables, an entry per value, in increasing order of name. -/
  sideTables : List (String × List String)
  deriving DecidableEq, Repr

namespace FanOut

/-- Adding a side table to a name-ordered list, replacing one of the same name. -/
def insertTable (name : String) (t : List String) :
    List (String × List String) → List (String × List String)
  | [] => [(name, t)]
  | (n, u) :: rest =>
    if name < n then (name, t) :: (n, u) :: rest
    else if name = n then (name, t) :: rest
    else (n, u) :: insertTable name t rest

/-- A fan-out with no side tables. -/
def new (metatask var : String) (values : List String) : FanOut := ⟨metatask, var, values, []⟩

/-- The same fan-out with a side table. -/
def withTable (f : FanOut) (name : String) (t : List String) : FanOut :=
  { f with sideTables := insertTable name t f.sideTables }

/-- The variables a member sees: the fan-out variable, then the side tables. -/
def memberVariables (f : FanOut) : List String := f.var :: f.sideTables.map Prod.fst

/-- The first side table whose length differs from the number of values. -/
def mismatchedTable? (f : FanOut) : Option (String × List String) :=
  f.sideTables.find? fun (_, t) => t.length != f.values.length

/-- Checking that a fan-out has values and side tables of the right length. -/
def check (f : FanOut) (task : String) : Outcome Unit :=
  if f.values.isEmpty then
    throw (.invalidFanOut task ("metatask '" ++ f.metatask ++ "' has no values for '" ++ f.var ++ "'"))
  else
    match f.mismatchedTable? with
    | some (name, t) =>
      throw (.invalidFanOut task ("side table '" ++ name ++ "' has " ++ toString t.length ++
        " entries for " ++ toString f.values.length ++ " values"))
    | none => pure ()

end FanOut

/-- The lengths of the parts when `len` elements are cut into `n` parts: the first
`len % n` parts one longer. -/
def partLengths (len n : Nat) : List Nat :=
  (List.range n).map fun i => len / n + if i < len % n then 1 else 0

/-- The total of a list of lengths. -/
def lengthTotal : List Nat → Nat
  | [] => 0
  | k :: ks => k + lengthTotal ks

/-- Cutting a list into consecutive parts of the given lengths. -/
def cutInto {α : Type} : List Nat → List α → List (List α)
  | [], _ => []
  | k :: ks, xs => xs.take k :: cutInto ks (xs.drop k)

/-- Cutting a domain into `groups` consecutive parts (at least one, at most one per element),
the first parts one longer when the division is uneven; an empty domain has no parts. -/
def partition {α : Type} (domain : List α) (groups : Nat) : List (List α) :=
  if domain.isEmpty then []
  else
    let n := min (max groups 1) domain.length
    cutInto (partLengths domain.length n) domain

/-- The number of hours from `fhmin` to `fhmax` every `fhout`. -/
def hourCount (fhmin fhmax fhout : Int) : Nat :=
  if fhout ≤ 0 ∨ fhmax < fhmin then 0 else ((fhmax - fhmin) / fhout).toNat + 1

/-- The hours from `fhmin` to `fhmax` every `fhout`; none for a step that is not positive. -/
def hourRange (fhmin fhmax fhout : Int) : List Int :=
  (List.range (hourCount fhmin fhmax fhout)).map fun (k : Nat) => fhmin + k * fhout

/-- Hours at a high rate up to `fhmaxHf` (at most `fhmax`), then at the normal rate from the
next step on to `fhmax`; a next step past the signed 64-bit range stops the computation. -/
def twoRateHours (fhmin fhmaxHf fhoutHf fhmax fhout : Int) : Outcome (List Int) := do
  let hours := hourRange fhmin (min fhmaxHf fhmax) fhoutHf
  let tailStart ← match hours.getLast? with
    | some last =>
      if Text.fitsWord (last + fhout) then pure (last + fhout) else throw .addOverflow
    | none => pure fhmin
  return hours ++ hourRange tailStart fhmax fhout

/-- The label of a forecast hour, `f` and at least three digits. -/
def hourLabel (h : Int) : String := "f" ++ Text.padded 3 h

/-- Hour groups: their labels, their last hours and their hours joined by `_`. -/
structure HourGroups where
  /-- `001`, `002`, … one per group. -/
  labels : List String
  /-- The last hour of each group. -/
  anchors : List String
  /-- The hours of each group, joined by `_`. -/
  lists : List String
  deriving DecidableEq, Repr

/-- Splitting forecast hours into groups. -/
def hourGroups (hours : List Int) (groups : Nat) : HourGroups :=
  let parts := partition (hours.map hourLabel) groups
  { labels := (List.range parts.length).map fun (i : Nat) => Text.padded 3 ((i + 1 : Nat) : Int)
    anchors := parts.filterMap List.getLast?
    lists := parts.map fun p => String.intercalate "_" p }

/-- The number of member groups: `members / perGroup`, at least one. -/
def memberGroupCount (members perGroup : Nat) : Nat := max (members / max perGroup 1) 1

/-- Labels of member groups, numbered from `first` with at least two digits. The numbers are
unsigned 32-bit words: a numbering whose end does not fit stops the computation. -/
def memberGroups (members perGroup first : Nat) : Outcome (List String) :=
  let count := memberGroupCount members perGroup
  if Text.word32Max < first + count then throw .addOverflow
  else pure ((List.range count).map fun (i : Nat) => Text.padded 2 ((first + i : Nat) : Int))

theorem lengthTotal_append (ks ls : List Nat) :
    lengthTotal (ks ++ ls) = lengthTotal ks + lengthTotal ls := by
  induction ks with
  | nil => simp [lengthTotal]
  | cons k ks ih => simp only [List.cons_append, lengthTotal, ih]; omega

theorem cutInto_flatten {α : Type} (ks : List Nat) (xs : List α) (h : lengthTotal ks = xs.length) :
    (cutInto ks xs).flatten = xs := by
  induction ks generalizing xs with
  | nil => simp only [lengthTotal] at h; simp [cutInto, List.length_eq_zero_iff.mp h.symm]
  | cons k ks ih =>
    simp only [lengthTotal] at h
    simp only [cutInto, List.flatten_cons]
    rw [ih (xs.drop k) (by simp; omega), List.take_append_drop]

theorem total_partLengths (len n : Nat) (hn : 0 < n) : lengthTotal (partLengths len n) = len := by
  unfold partLengths
  have key : ∀ m, m ≤ n →
      lengthTotal ((List.range m).map fun i => len / n + if i < len % n then 1 else 0) =
        m * (len / n) + min m (len % n) := by
    intro m hm
    induction m with
    | zero => simp [lengthTotal]
    | succ m ih =>
      rw [List.range_succ, List.map_append, lengthTotal_append, ih (by omega)]
      simp only [List.map_cons, List.map_nil, lengthTotal]
      split <;> (rw [Nat.succ_mul]; omega)
  rw [key n (Nat.le_refl _)]
  have := Nat.mod_lt len hn
  have := Nat.div_add_mod len n
  rw [Nat.min_eq_right (by omega)]
  omega

/-- The parts of a partition make up the domain again. -/
theorem flatten_partition {α : Type} (domain : List α) (groups : Nat) :
    (partition domain groups).flatten = domain := by
  unfold partition
  split
  · rename_i h
    simp [List.isEmpty_iff.mp h]
  · rename_i h
    apply cutInto_flatten
    apply total_partLengths
    have : domain ≠ [] := fun e => h (by simp [e])
    have := List.length_pos_iff.mpr this
    omega

theorem length_cutInto {α : Type} (ks : List Nat) (xs : List α) :
    (cutInto ks xs).length = ks.length := by
  induction ks generalizing xs with
  | nil => rfl
  | cons k ks ih => simp [cutInto, ih]

theorem map_length_cutInto {α : Type} (ks : List Nat) (xs : List α) (h : lengthTotal ks = xs.length) :
    (cutInto ks xs).map List.length = ks := by
  induction ks generalizing xs with
  | nil => rfl
  | cons k ks ih =>
    simp only [lengthTotal] at h
    have hrest : lengthTotal ks = (xs.drop k).length := by simp only [List.length_drop]; omega
    simp only [cutInto, List.map_cons, List.length_take, ih (xs.drop k) hrest]
    congr 1
    omega

/-- When there are no more parts than elements, every part length is positive. -/
theorem pos_of_mem_partLengths (len n k : Nat) (hn : 0 < n) (hle : n ≤ len)
    (hk : k ∈ partLengths len n) : 0 < k := by
  simp only [partLengths, List.mem_map, List.mem_range] at hk
  obtain ⟨i, _, rfl⟩ := hk
  have := Nat.div_pos hle hn
  omega

/-- The shape of a partition: with `n` the requested count clamped to between one and the
domain length, there are `n` parts, they make up the domain in order, the first
`length % n` have length `length / n + 1` and the others `length / n`, and none is empty.
An empty domain gives `n = 0`, hence no parts. -/
theorem partition_shape {α : Type} (domain : List α) (groups : Nat) :
    (partition domain groups).length = min (max groups 1) domain.length ∧
      (partition domain groups).flatten = domain ∧
      (partition domain groups).map List.length =
        (List.range (min (max groups 1) domain.length)).map (fun i =>
          domain.length / min (max groups 1) domain.length +
            if i < domain.length % min (max groups 1) domain.length then 1 else 0) ∧
      ∀ p ∈ partition domain groups, p ≠ [] := by
  by_cases h : domain = []
  · subst h
    simp [partition]
  · have hpos : 0 < domain.length := List.length_pos_iff.mpr h
    have hn : 0 < min (max groups 1) domain.length := by omega
    have hsum := total_partLengths domain.length (min (max groups 1) domain.length) hn
    have hne : domain.isEmpty = false := by simp [h]
    have hmap := map_length_cutInto _ domain hsum
    simp only [partition, hne, Bool.false_eq_true, if_false]
    refine ⟨?_, cutInto_flatten _ domain hsum, hmap, ?_⟩
    · simp [length_cutInto, partLengths]
    · intro p hp hnil
      have hlen : p.length ∈ (cutInto (partLengths domain.length
          (min (max groups 1) domain.length)) domain).map List.length :=
        List.mem_map_of_mem hp
      rw [hmap, hnil] at hlen
      exact absurd (pos_of_mem_partLengths _ _ _ hn (Nat.min_le_right _ _) hlen) (by simp)

end CycledWorkflow
