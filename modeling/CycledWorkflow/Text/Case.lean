import CycledWorkflow.Text.CaseTable
/-!
# Case conversion

Full Unicode case conversion of texts. A point maps by the expansion table when it has an
entry there (`İ` lowers to `i` and a combining dot above, `ß` uppers to `SS`), else by the
first run that covers it, else to itself. Lowering a text treats the capital sigma by its
context: at the end of a word (a cased letter before it, none after it, case-ignorable
points skipped on both sides) it becomes the final form `ς`, elsewhere `σ`.

On ASCII letters the tables move a letter by 32, down for capitals and up for small letters
(`lowerChar_of_ascii_upper`, `upperChar_of_ascii_lower`).
-/

namespace CycledWorkflow.Text

/-- The image of a point under a run, when the run covers it. -/
def CaseRun.apply? (r : CaseRun) (n : Nat) : Option Nat :=
  if r.first ≤ n ∧ n ≤ r.last ∧ (n - r.first) % r.stride = 0 then
    some (((n : Int) + r.shift).toNat)
  else
    none

/-- The image of a point under the first run of a table that covers it. -/
def mapByRuns : List CaseRun → Nat → Option Nat
  | [], _ => none
  | r :: rs, n =>
    match r.apply? n with
    | some m => some m
    | none => mapByRuns rs n

/-- Whether a point lies in one of a list of inclusive ranges. -/
def inRanges (rs : List (Nat × Nat)) (n : Nat) : Bool :=
  rs.any fun r => r.1 ≤ n && n ≤ r.2

/-- The points a character becomes under a pair of case tables. -/
def mapChar (runs : List CaseRun) (expansions : List (Nat × List Nat)) (c : Char) :
    List Char :=
  match expansions.lookup c.toNat with
  | some ns => ns.map Char.ofNat
  | none =>
    match mapByRuns runs c.toNat with
    | some m => [Char.ofNat m]
    | none => [c]

/-- The lowercase form of one character, out of context. -/
def lowerChar (c : Char) : List Char := mapChar lowerRuns lowerExpansions c

/-- The uppercase form of one character. -/
def upperChar (c : Char) : List Char := mapChar upperRuns upperExpansions c

/-- Whether a character is cased and not case-ignorable. -/
def isCased (c : Char) : Bool := inRanges casedRanges c.toNat

/-- Whether a character is case-ignorable. -/
def isCaseIgnorable (c : Char) : Bool := inRanges caseIgnorableRanges c.toNat

/-- Whether a sequence, read from its start, holds a cased character once the
case-ignorable ones are skipped. -/
def casedAfterIgnorable (cs : List Char) : Bool :=
  match cs.dropWhile isCaseIgnorable with
  | c :: _ => isCased c
  | [] => false

/-- The capital sigma. -/
def capitalSigma : Char := Char.ofNat 0x3A3

/-- The lowercase form of a capital sigma between the characters before it (nearest first)
and the characters after it. -/
def lowerSigma (before after : List Char) : Char :=
  if casedAfterIgnorable before && !casedAfterIgnorable after then Char.ofNat 0x3C2
  else Char.ofNat 0x3C3

/-- Lowering a sequence of characters, given those already passed (nearest first). -/
def lowerChars (before : List Char) : List Char → List Char
  | [] => []
  | c :: rest =>
    let here := if c = capitalSigma then [lowerSigma before rest] else lowerChar c
    here ++ lowerChars (c :: before) rest

/-- The lowercase form of a text. -/
def toLower (s : String) : String := String.ofList (lowerChars [] s.toList)

/-- The uppercase form of a text. -/
def toUpper (s : String) : String := String.ofList (s.toList.flatMap upperChar)

/-- Capital ASCII letters lower by 32. -/
theorem lowerChar_of_ascii_upper (c : Char) (h : c.isUpper = true) :
    lowerChar c = [Char.ofNat (c.toNat + 32)] := by
  have hc : 65 ≤ c.toNat ∧ c.toNat ≤ 90 := by
    change decide (c.val ≥ (65 : UInt32) ∧ c.val ≤ (90 : UInt32)) = true at h
    simp only [decide_eq_true_eq] at h
    exact ⟨h.1, h.2⟩
  obtain ⟨n, hn⟩ : ∃ n, c.toNat = n := ⟨_, rfl⟩
  rw [hn] at hc
  simp only [lowerChar, mapChar, hn]
  have : n ∈ List.range' 65 26 := List.mem_range'_1.mpr ⟨hc.1, by omega⟩
  simp only [List.range', List.mem_cons, List.not_mem_nil, or_false] at this
  rcases this with h | h | h | h | h | h | h | h | h | h | h | h | h | h | h | h | h | h | h |
    h | h | h | h | h | h | h <;> subst h <;> rfl

/-- Small ASCII letters upper by 32. -/
theorem upperChar_of_ascii_lower (c : Char) (h : c.isLower = true) :
    upperChar c = [Char.ofNat (c.toNat - 32)] := by
  have hc : 97 ≤ c.toNat ∧ c.toNat ≤ 122 := by
    change (decide (c.val ≥ (97 : UInt32)) && decide (c.val ≤ (122 : UInt32))) = true at h
    simp only [Bool.and_eq_true, decide_eq_true_eq] at h
    exact ⟨h.1, h.2⟩
  obtain ⟨n, hn⟩ : ∃ n, c.toNat = n := ⟨_, rfl⟩
  rw [hn] at hc
  simp only [upperChar, mapChar, hn]
  have : n ∈ List.range' 97 26 := List.mem_range'_1.mpr ⟨hc.1, by omega⟩
  simp only [List.range', List.mem_cons, List.not_mem_nil, or_false] at this
  rcases this with h | h | h | h | h | h | h | h | h | h | h | h | h | h | h | h | h | h | h |
    h | h | h | h | h | h | h <;> subst h <;> rfl

end CycledWorkflow.Text
