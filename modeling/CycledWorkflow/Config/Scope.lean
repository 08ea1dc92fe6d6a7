import CycledWorkflow.Config.Value
import CycledWorkflow.Error
import CycledWorkflow.Text.Blank
import CycledWorkflow.Text.Case
import CycledWorkflow.Text.Numeral
import CycledWorkflow.Time.Moment
import CycledWorkflow.Time.Span
/-!
# Scopes

A scope is a set of configuration keys with their values, kept in increasing order of the
keys (by code point, which is the byte order of their UTF-8 form). The order is part of the
type (`Scope.sorted`): writing a key keeps it (`pairwise_insertEntry`), so every scope, however
built or read, has each key once. Writing a key that is already present replaces its value;
extending a scope writes entries one after another, so the last write of a key wins; merging
writes every entry of an overlay.

The typed readings of a key say how each kind of value is taken:

* a flag is a boolean, the integers `0` and `1`, or a text that after trimming and
  uppercasing is `YES`, `Y`, `TRUE`, `.TRUE.` or `T` (true) or `NO`, `N`, `FALSE`,
  `.FALSE.` or `F` (false);
* an integer is an integer, or a text that after trimming is a 64-bit numeral;
* a count is an integer from 0 to `2 ^ 32 - 1`;
* a timestamp is any value whose text form is a timestamp;
* a duration is an integer number of days, a value whose trimmed text is such a number, or
  the text `[-][D:]H:MM:SS`.

A value of the wrong form is an `invalidValue` error naming the key, the value as written
and the form expected.
-/

namespace CycledWorkflow.Config

/-- Key and value pairs in increasing order of the keys, each key once. -/
structure Scope where
  /-- The entries, in increasing key order. -/
  entries : List (String × Value)
  /-- Every key is smaller than the keys after it, so no key is entered twice. -/
  sorted : entries.Pairwise (fun a b => a.1 < b.1) := by decide
  deriving DecidableEq, Repr

namespace Scope

/-- The scope with no keys. -/
def empty : Scope := ⟨[], .nil⟩

instance : Inhabited Scope := ⟨empty⟩

/-- Writing a key into an ordered entry list. -/
def insertEntry (k : String) (v : Value) : List (String × Value) → List (String × Value)
  | [] => [(k, v)]
  | (k', v') :: rest =>
    if k < k' then (k, v) :: (k', v') :: rest
    else if k = k' then (k, v) :: rest
    else (k', v') :: insertEntry k v rest

/-- An entry after a write is the written one or was there before. -/
theorem mem_insertEntry {k : String} {v : Value} {x : String × Value} :
    ∀ {es : List (String × Value)}, x ∈ insertEntry k v es → x = (k, v) ∨ x ∈ es
  | [], h => by simpa [insertEntry] using h
  | (k', v') :: rest, h => by
    unfold insertEntry at h
    split at h
    · simpa using h
    · split at h
      · simp only [List.mem_cons] at h ⊢
        rcases h with h | h
        · exact .inl h
        · exact .inr (.inr h)
      · simp only [List.mem_cons] at h ⊢
        rcases h with h | h
        · exact .inr (.inl h)
        · rcases mem_insertEntry h with h | h
          · exact .inl h
          · exact .inr (.inr h)

/-- Writing a key keeps the keys in increasing order. -/
theorem pairwise_insertEntry {k : String} {v : Value} {es : List (String × Value)}
    (h : es.Pairwise fun a b => a.1 < b.1) :
    (insertEntry k v es).Pairwise fun a b => a.1 < b.1 := by
  induction es with
  | nil => simp [insertEntry]
  | cons e rest ih =>
    obtain ⟨k', v'⟩ := e
    obtain ⟨hlt, hrest⟩ := List.pairwise_cons.mp h
    unfold insertEntry
    split
    · next hk =>
      refine List.Pairwise.cons (fun x hx => ?_) h
      rcases List.mem_cons.mp hx with rfl | hx
      · exact hk
      · exact String.lt_trans hk (hlt x hx)
    · split
      · next hk =>
        subst hk
        exact List.Pairwise.cons hlt hrest
      · next hk1 hk2 =>
        -- the key goes after the first entry, whose key is smaller
        have hk : k' < k := Std.lt_of_le_of_ne (String.not_lt.mp hk1) (Ne.symm hk2)
        refine List.Pairwise.cons (fun x hx => ?_) (ih hrest)
        rcases mem_insertEntry hx with rfl | hx
        · exact hk
        · exact hlt x hx

/-- The value of a key. -/
def get? (s : Scope) (key : String) : Option Value := s.entries.lookup key

/-- Whether a key is present. -/
def contains (s : Scope) (key : String) : Bool := (s.get? key).isSome

/-- The number of keys. -/
def size (s : Scope) : Nat := s.entries.length

/-- Whether the scope has no keys. -/
def isEmpty (s : Scope) : Bool := s.entries.isEmpty

/-- The scope with one key written. -/
def insert (s : Scope) (k : String) (v : Value) : Scope :=
  ⟨insertEntry k v s.entries, pairwise_insertEntry s.sorted⟩

/-- The scope with entries written one after another. -/
def extend (s : Scope) (entries : List (String × Value)) : Scope :=
  entries.foldl (fun acc e => acc.insert e.1 e.2) s

/-- The scope with every entry of an overlay written over it. -/
def merge (s overlay : Scope) : Scope := s.extend overlay.entries

/-- The scope of a list of entries, later entries of a key winning. -/
def ofList (entries : List (String × Value)) : Scope := empty.extend entries

/-- The text form of a key's value. -/
def string? (s : Scope) (key : String) : Option String := (s.get? key).map Value.display

/-- The text form of a key's value, or a default. -/
def stringOr (s : Scope) (key default : String) : String := (s.string? key).getD default

/-- The texts that read as a true flag. -/
def trueWords : List String := ["YES", "Y", "TRUE", ".TRUE.", "T"]

/-- The texts that read as a false flag. -/
def falseWords : List String := ["NO", "N", "FALSE", ".FALSE.", "F"]

/-- A key read as a flag, or the default when it is absent. -/
def flag (s : Scope) (key : String) (default : Bool) : Outcome Bool :=
  match s.get? key with
  | none => pure default
  | some (.bool b) => pure b
  | some (.int 0) => pure false
  | some (.int 1) => pure true
  | some (.text t) =>
    let word := Text.toUpper (Text.trim t)
    if trueWords.contains word then pure true
    else if falseWords.contains word then pure false
    else throw (.invalidValue key t "a YES/NO flag")
  | some other => throw (.invalidValue key other.display "a YES/NO flag")

/-- A key read as a 64-bit integer. -/
def int? (s : Scope) (key : String) : Outcome (Option Int) :=
  match s.get? key with
  | none => pure none
  | some (.int i) => pure (some i)
  | some (.text t) =>
    match Text.readWord (Text.trim t) with
    | some i => pure (some i)
    | none => throw (.invalidValue key t "an integer")
  | some other => throw (.invalidValue key other.display "an integer")

/-- A key read as a 64-bit integer, or a default. -/
def intOr (s : Scope) (key : String) (default : Int) : Outcome Int := do
  return (← s.int? key).getD default

/-- A key read as a count from 0 to `2 ^ 32 - 1`. -/
def count? (s : Scope) (key : String) : Outcome (Option Nat) := do
  match ← s.int? key with
  | none => return none
  | some i =>
    if 0 ≤ i ∧ i ≤ Text.word32Max then return some i.toNat
    else throw (.invalidValue key (Text.intText i) "a non-negative integer")

/-- A key read as a timestamp. -/
def timestamp? (s : Scope) (key : String) : Outcome (Option Moment) :=
  match s.get? key with
  | none => pure none
  | some v =>
    match Moment.parseStamp v.display with
    | some t => pure (some t)
    | none => throw (.invalidValue key v.display "a YYYYMMDDHH timestamp")

/-- A whole number of days as a span, when it is within the bound. -/
def wholeDays (key : String) (days : Int) : Outcome Span :=
  match Span.ofDays? days with
  | some d => pure d
  | none => throw (.invalidValue key (Text.intText days) "a representable number of days")

/-- A key read as a duration. -/
def duration? (s : Scope) (key : String) : Outcome (Option Span) :=
  match s.get? key with
  | none => pure none
  | some (.int days) => some <$> wholeDays key days
  | some v =>
    let text := v.display
    match Text.readWord (Text.trim text) with
    | some days => some <$> wholeDays key days
    | none =>
      match Span.parseOffset text with
      | some d => pure (some d)
      | none => throw (.invalidValue key text "days or [D:]HH:MM:SS")

theorem lookup_insertEntry (k : String) (v : Value) (es : List (String × Value)) :
    (insertEntry k v es).lookup k = some v := by
  induction es with
  | nil => simp [insertEntry]
  | cons e rest ih =>
    obtain ⟨k', v'⟩ := e
    simp only [insertEntry]
    split
    · simp
    · split
      · simp
      · rename_i h
        have hb : (k == k') = false := by simp [h]
        simp [List.lookup_cons, hb, ih]

theorem lookup_insertEntry_of_ne (k j : String) (v : Value) (es : List (String × Value))
    (h : j ≠ k) : (insertEntry k v es).lookup j = es.lookup j := by
  have hb : (j == k) = false := by simp [h]
  induction es with
  | nil => simp [insertEntry, List.lookup_cons, hb]
  | cons e rest ih =>
    obtain ⟨k', v'⟩ := e
    simp only [insertEntry]
    split
    · simp [List.lookup_cons, hb]
    · split
      · rename_i _ hk
        subst hk
        simp [List.lookup_cons, hb]
      · simp only [List.lookup_cons]
        split <;> simp_all

/-- A written key reads back. -/
theorem get?_insert (s : Scope) (k : String) (v : Value) : (s.insert k v).get? k = some v :=
  lookup_insertEntry k v s.entries

/-- Writing one key leaves the others. -/
theorem get?_insert_of_ne (s : Scope) (k j : String) (v : Value) (h : j ≠ k) :
    (s.insert k v).get? j = s.get? j :=
  lookup_insertEntry_of_ne k j v s.entries h

end Scope

end CycledWorkflow.Config
