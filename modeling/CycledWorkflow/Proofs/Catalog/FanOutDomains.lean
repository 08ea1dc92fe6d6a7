import CycledWorkflow.Catalog.Staging
import CycledWorkflow.Proofs.Outcome
/-!
# The domains fan-outs range over

Post-processing fans out over forecast hours and the ensemble tasks over groups of members.
Both domains are computed in machine words.

A range of forecast hours from `a` to `b` every `s` hours holds exactly the hours `a + k · s`
up to `b`, in increasing order (`mem_hourRange`, `pairwise_lt_hourRange`). Hours at two rates
are the hours of the high rate up to the end of the high-rate window, then the hours of the
normal rate from one normal step after the last of them. That next start is a sum of signed
64-bit words, and the computation stops on it exactly when it leaves the word
(`twoRateHours_outcome`): with the high-rate window ending at the greatest word, no start
after it can be written, although the tail it would begin is empty. When the computation goes
through, the hours rise strictly and stay within the window.

Member groups are numbered from a first number in unsigned 32-bit words: the end of the
numbering is a sum that leaves the word for the first number one, a group size of one and the
greatest member count, and only there (`memberGroups_outcome`). Every member fan-out that is
built has at least one group.

Main statements: `twoRateHours_outcome` and `memberGroups_outcome`.
-/

namespace CycledWorkflow

/-! ### Spaced ranges -/

section HourRange

variable {a b s h : Int}

/-- With a positive step, a range counts exactly the steps that stay within its end. -/
theorem lt_hourCount_iff (hs : 0 < s) (k : Nat) : k < hourCount a b s ↔ a + k * s ≤ b := by
  have hk0 : (0 : Int) ≤ k * s := Int.mul_nonneg (Int.natCast_nonneg k) (Int.le_of_lt hs)
  unfold hourCount
  split
  · next hc =>
    -- a positive step leaves only an end before the start
    have hba : b < a := hc.resolve_left (Int.not_le.mpr hs)
    omega
  · next hc =>
    have hq : 0 ≤ (b - a) / s := Int.ediv_nonneg (by omega) (Int.le_of_lt hs)
    calc k < ((b - a) / s).toNat + 1 ↔ (k : Int) ≤ (b - a) / s := by omega
      _ ↔ k * s ≤ b - a := Int.le_ediv_iff_mul_le hs
      _ ↔ a + k * s ≤ b := by omega

/-- A range with a positive step holds the hours a whole number of steps after its start, up
to its end. -/
theorem mem_hourRange (hs : 0 < s) : h ∈ hourRange a b s ↔ ∃ k : Nat, h = a + k * s ∧ h ≤ b := by
  simp only [hourRange, List.mem_map, List.mem_range]
  constructor
  · rintro ⟨k, hk, rfl⟩
    exact ⟨k, rfl, (lt_hourCount_iff hs k).mp hk⟩
  · rintro ⟨k, rfl, hle⟩
    exact ⟨k, (lt_hourCount_iff hs k).mpr hle, rfl⟩

/-- A step that is not positive gives no hours. -/
theorem hourRange_of_nonpos (hs : s ≤ 0) : hourRange a b s = [] := by
  simp [hourRange, hourCount, hs]

/-- The hours of a range rise strictly. -/
theorem pairwise_lt_hourRange (a b s : Int) : (hourRange a b s).Pairwise (· < ·) := by
  rcases Int.lt_or_le 0 s with hs | hs
  · rw [hourRange, List.pairwise_map]
    exact List.pairwise_lt_range.imp fun {i j} hij => by
      have : (i : Int) * s < j * s := Int.mul_lt_mul_of_pos_right (by omega) hs
      omega
  · rw [hourRange_of_nonpos hs]
    exact List.Pairwise.nil

/-- Every hour of a range lies between its start and its end. -/
theorem bounds_of_mem_hourRange (hh : h ∈ hourRange a b s) : a ≤ h ∧ h ≤ b := by
  rcases Int.lt_or_le 0 s with hs | hs
  · obtain ⟨k, rfl, hle⟩ := (mem_hourRange hs).mp hh
    have : (0 : Int) ≤ k * s := Int.mul_nonneg (Int.natCast_nonneg k) (Int.le_of_lt hs)
    omega
  · rw [hourRange_of_nonpos hs] at hh
    cases hh

/-- The last hour of a range is the greatest. -/
theorem le_of_getLast?_hourRange {last : Int} (hl : (hourRange a b s).getLast? = some last)
    (hh : h ∈ hourRange a b s) : h ≤ last := by
  rcases Int.lt_or_le 0 s with hs | hs
  · have hmem := List.mem_of_getLast? hl
    rw [hourRange, List.getLast?_map, List.getLast?_range] at hl
    split at hl
    · cases hl
    · obtain ⟨n, hn, rfl⟩ := List.mem_map.mp hh
      obtain rfl := Option.some.inj hl
      have hn' := List.mem_range.mp hn
      have : (n : Int) * s ≤ ((hourCount a b s - 1 : Nat) : Int) * s :=
        Int.mul_le_mul_of_nonneg_right (by omega) (Int.le_of_lt hs)
      show a + n * s ≤ a + ((hourCount a b s - 1 : Nat) : Int) * s
      omega
  · rw [hourRange_of_nonpos hs] at hh
    cases hh

end HourRange

/-! ### Hours at two rates -/

section TwoRates

variable {fhmin fhmaxHf fhoutHf fhmax fhout : Int}

/-- Where the normal rate starts: one normal step after the last high-rate hour, or at the
first hour when there is none. -/
def tailStart (high : List Int) (fhmin fhout : Int) : Int :=
  (high.getLast?.map (· + fhout)).getD fhmin

/-- Two-rate hours stop exactly when a last high-rate hour plus the normal step leaves the
signed 64-bit word; otherwise they are the high-rate hours and the normal-rate tail. -/
theorem twoRateHours_eq :
    twoRateHours fhmin fhmaxHf fhoutHf fhmax fhout =
      match (hourRange fhmin (min fhmaxHf fhmax) fhoutHf).getLast? with
      | some last =>
        if Text.fitsWord (last + fhout) then
          .ok (hourRange fhmin (min fhmaxHf fhmax) fhoutHf ++ hourRange (last + fhout) fhmax fhout)
        else .error .addOverflow
      | none => .ok (hourRange fhmin (min fhmaxHf fhmax) fhoutHf ++ hourRange fhmin fhmax fhout) := by
  unfold twoRateHours
  dsimp only
  cases (hourRange fhmin (min fhmaxHf fhmax) fhoutHf).getLast? with
  | none => rfl
  | some last =>
    by_cases hw : Text.fitsWord (last + fhout)
    · simp only [hw, if_true]
      rfl
    · simp only [hw, Bool.false_eq_true, if_false]
      rfl

/-- High-rate hours rising within the window, followed by the normal-rate tail from one
normal step after the last of them, rise strictly and stay within the window. -/
theorem pairwise_bounds_append_tail (fhout : Int) {high : List Int} (hsorted : high.Pairwise (· < ·))
    (hlast : ∀ x ∈ high, ∀ last, high.getLast? = some last → x ≤ last)
    (hbounds : ∀ x ∈ high, fhmin ≤ x ∧ x ≤ fhmax) :
    (high ++ hourRange (tailStart high fhmin fhout) fhmax fhout).Pairwise (· < ·) ∧
      ∀ h ∈ high ++ hourRange (tailStart high fhmin fhout) fhmax fhout, fhmin ≤ h ∧ h ≤ fhmax := by
  -- every tail hour comes after every high-rate hour and within the window
  have htail : ∀ t ∈ hourRange (tailStart high fhmin fhout) fhmax fhout,
      fhmin ≤ t ∧ t ≤ fhmax ∧ ∀ x ∈ high, x < t := by
    intro t ht
    have hpos : 0 < fhout := by
      rcases Int.lt_or_le 0 fhout with hs | hs
      · exact hs
      · rw [hourRange_of_nonpos hs] at ht
        cases ht
    obtain ⟨hst, hle⟩ := bounds_of_mem_hourRange ht
    unfold tailStart at hst
    cases hl : high.getLast? with
    | none =>
      rw [List.getLast?_eq_none_iff.mp hl]
      simp only [hl, Option.map_none, Option.getD_none] at hst
      exact ⟨hst, hle, fun x hx => by cases hx⟩
    | some last =>
      simp only [hl, Option.map_some, Option.getD_some] at hst
      have hlow := (hbounds last (List.mem_of_getLast? hl)).1
      exact ⟨by omega, hle, fun x hx => by have := hlast x hx last hl; omega⟩
  refine ⟨List.pairwise_append.mpr ⟨hsorted, pairwise_lt_hourRange _ _ _,
    fun x hx t ht => (htail t ht).2.2 x hx⟩, ?_⟩
  intro h hh
  rcases List.mem_append.mp hh with hh | hh
  · exact hbounds h hh
  · exact ⟨(htail h hh).1, (htail h hh).2.1⟩

/-- Hours at two rates: a range with a positive step holds exactly the hours a whole number of
steps after its start; the computation stops on a word overflow exactly when the tail would
start past the signed 64-bit range after a last high-rate hour; otherwise it gives the
high-rate hours followed by the normal-rate tail, rising strictly from `fhmin` to at most
`fhmax`. -/
theorem twoRateHours_outcome (fhmin fhmaxHf fhoutHf fhmax fhout : Int) :
    (∀ a b s : Int, 0 < s → ∀ h, h ∈ hourRange a b s ↔ ∃ k : Nat, h = a + k * s ∧ h ≤ b) ∧
    (twoRateHours fhmin fhmaxHf fhoutHf fhmax fhout = .error .addOverflow ↔
      ∃ last, (hourRange fhmin (min fhmaxHf fhmax) fhoutHf).getLast? = some last ∧
        Text.fitsWord (last + fhout) = false) ∧
    ∀ r, twoRateHours fhmin fhmaxHf fhoutHf fhmax fhout = r →
      r = .error .addOverflow ∨
      ∃ hours, r = .ok hours ∧
        hours = hourRange fhmin (min fhmaxHf fhmax) fhoutHf ++
          hourRange (tailStart (hourRange fhmin (min fhmaxHf fhmax) fhoutHf) fhmin fhout)
            fhmax fhout ∧
        hours.Pairwise (· < ·) ∧ ∀ h ∈ hours, fhmin ≤ h ∧ h ≤ fhmax := by
  refine ⟨fun a b s hs h => mem_hourRange hs, ?_, ?_⟩
  · rw [twoRateHours_eq]
    cases hl : (hourRange fhmin (min fhmaxHf fhmax) fhoutHf).getLast? with
    | none => simp
    | some last => by_cases hw : Text.fitsWord (last + fhout) <;> simp [hw]
  · rintro r rfl
    have hbounds : ∀ x ∈ hourRange fhmin (min fhmaxHf fhmax) fhoutHf, fhmin ≤ x ∧ x ≤ fhmax :=
      fun x hx => by have := bounds_of_mem_hourRange hx; omega
    have hshape := pairwise_bounds_append_tail fhout
      (pairwise_lt_hourRange fhmin (min fhmaxHf fhmax) fhoutHf)
      (fun x hx last hl => le_of_getLast?_hourRange hl hx) hbounds
    rw [twoRateHours_eq]
    cases hl : (hourRange fhmin (min fhmaxHf fhmax) fhoutHf).getLast? with
    | none =>
      have hts : tailStart (hourRange fhmin (min fhmaxHf fhmax) fhoutHf) fhmin fhout = fhmin := by
        simp [tailStart, hl]
      rw [hts] at hshape
      exact .inr ⟨_, rfl, by rw [hts], hshape⟩
    | some last =>
      have hts : tailStart (hourRange fhmin (min fhmaxHf fhmax) fhoutHf) fhmin fhout =
          last + fhout := by simp [tailStart, hl]
      rw [hts] at hshape
      by_cases hw : Text.fitsWord (last + fhout)
      · simp only [hw, if_true]
        exact .inr ⟨_, rfl, by rw [hts], hshape⟩
      · simp only [hw]
        exact .inl rfl

/-- At the top of the word the two-rate hours cannot go on: the last high-rate hour is the
greatest word, and one more hour past it does not fit. -/
theorem twoRateHours_top_overflows :
    twoRateHours Text.wordMax Text.wordMax 1 Text.wordMax 1 = .error .addOverflow :=
  (twoRateHours_outcome Text.wordMax Text.wordMax 1 Text.wordMax 1).2.1.mpr
    ⟨Text.wordMax, by decide, by decide⟩

end TwoRates

/-! ### Member groups -/

/-- With at least one member per group and a first number of zero or one, member groups are
numbered without leaving the unsigned 32-bit word, except for the first number one with one
member per group and the greatest member count, where the end of the numbering does not fit.
Otherwise the labels are the numbers from the first on, one per group, `members / perGroup`
groups and at least one, each at least two digits. Every member fan-out that is built has at
least one group. -/
theorem memberGroups_outcome (members perGroup first : Nat) (hm : members ≤ Text.word32Max)
    (hp : 1 ≤ perGroup) (hf : first ≤ 1) :
    (memberGroups members perGroup first =
      if first = 1 ∧ perGroup = 1 ∧ members = Text.word32Max then .error .addOverflow
      else .ok ((List.range (max (members / perGroup) 1)).map fun i =>
        Text.padded 2 ((first + i : Nat) : Int))) ∧
    ∀ (c : Context) (suffix sizeKey : String) (first : Nat) (fan : FanOut),
      Staging.memberFanOut c suffix sizeKey first = .ok fan → fan.values ≠ [] := by
  refine ⟨?_, ?_⟩
  · have hcount : memberGroupCount members perGroup = max (members / perGroup) 1 := by
      rw [memberGroupCount, Nat.max_eq_left hp]
    have hword : Text.word32Max = 4294967295 := rfl
    -- a group for every member of the greatest count needs groups of one
    have hall : members / perGroup = Text.word32Max → perGroup = 1 ∧ members = Text.word32Max := by
      intro hq
      have hle : members / perGroup ≤ members := Nat.div_le_self members perGroup
      rcases Nat.lt_or_ge 1 perGroup with h2 | h1
      · have hpos : 0 < members := by omega
        have := Nat.div_lt_self hpos h2
        omega
      · have h1 : perGroup = 1 := by omega
        rw [h1, Nat.div_one] at hq
        exact ⟨h1, hq⟩
    -- with a count of at most every member, only the first number one can reach past the word
    have hfit : ¬(first = 1 ∧ perGroup = 1 ∧ members = Text.word32Max) →
        ¬Text.word32Max < first + max (members / perGroup) 1 := by
      intro hover hlt
      have hle : members / perGroup ≤ members := Nat.div_le_self members perGroup
      have hq : first = 1 ∧ members / perGroup = Text.word32Max := by omega
      exact hover ⟨hq.1, hall hq.2⟩
    unfold memberGroups
    rw [hcount]
    by_cases hover : first = 1 ∧ perGroup = 1 ∧ members = Text.word32Max
    · obtain ⟨rfl, rfl, rfl⟩ := hover
      rfl
    · rw [if_neg hover, if_neg (hfit hover)]
      rfl
  · intro c suffix sizeKey first fan h
    unfold Staging.memberFanOut at h
    obtain ⟨members, -, h⟩ := exists_ok_of_bind_ok h
    obtain ⟨size, -, h⟩ := exists_ok_of_bind_ok h
    dsimp only at h
    split at h
    · cases h
    · obtain ⟨labels, hl, h⟩ := exists_ok_of_bind_ok h
      obtain rfl := Except.ok.inj h
      unfold memberGroups at hl
      dsimp only at hl
      split at hl
      · cases hl
      · obtain rfl := Except.ok.inj hl
        simp [FanOut.new, memberGroupCount]

/-- Numbering every one of the greatest count of members, one a group, from one leaves the
word. -/
theorem memberGroups_top_overflows : memberGroups Text.word32Max 1 1 = .error .addOverflow := by
  rw [(memberGroups_outcome Text.word32Max 1 1 (Nat.le_refl _) (Nat.le_refl _) (Nat.le_refl _)).1]
  rfl

end CycledWorkflow
