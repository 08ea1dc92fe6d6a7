import CycledWorkflow.Catalog.Build
import CycledWorkflow.Proofs.Outcome
/-!
# Forecast-hour fan-outs

Post-processing, and the ensemble post-processing of cycled experiments, fan out over groups
of forecast hours. The hours are labelled (`f006`), the labels partitioned into consecutive
blocks, and three lists are read off the blocks: the values `001`, `002`, … one per block, the
last label of each block, and the labels of each block joined by `_`. The last labels and the
joined labels go into side tables beside the values, which the fan-out check compares by
length.

The three lists are three separate passes over the blocks, and they stay in step
(`hourGroups_blocks`): there is one value, one last label and one joined list per block, and
splitting the joined lists at `_` gives back every label of the domain in order
(`hourGroups_fields`), since a label holds no `_`.

Post-processing refuses an empty domain; the ensemble post-processing builds a fan-out
without values for it, which the catalog's check then refuses.

Main statement: `hourFanOuts_consistent`.
-/

namespace CycledWorkflow

/-! ### Fields of a text -/

/-- The fields of a text between the occurrences of a separator. -/
def Text.fieldsOf (sep : Char) (s : String) : List String := (s.toList.splitOn sep).map String.ofList

/-- Texts joined by a separator they do not hold split back into those texts. -/
theorem Text.fieldsOf_intercalate {sep : Char} {xs : List String}
    (hx : ∀ x ∈ xs, sep ∉ x.toList) (hxs : xs ≠ []) :
    fieldsOf sep (String.intercalate (String.singleton sep) xs) = xs := by
  have hsep : (String.singleton sep).toList = [sep] := by simp
  -- split on the characters, where joining and splitting are inverse
  rw [fieldsOf, String.toList_intercalate, hsep,
    List.splitOn_intercalate sep (by simpa using hx) (by simpa using hxs)]
  simp

/-- An hour label is `f` and the digits of the hour, with a sign when it is negative. -/
theorem underscore_not_mem_hourLabel (h : Int) : '_' ∉ (hourLabel h).toList := by
  unfold hourLabel Text.padded
  simp only [String.toList_append, String.toList_ofList]
  intro hm
  simp at hm

/-! ### The blocks of a partition -/

section Partition

variable {α : Type} {domain : List α} {groups : Nat}

/-- A partition has the requested number of blocks, at least one and at most one per element;
an empty domain has none. -/
theorem length_partition (domain : List α) (groups : Nat) :
    (partition domain groups).length =
      if domain = [] then 0 else min (max groups 1) domain.length := by
  by_cases h : domain = []
  · subst h
    rfl
  · have hne : domain.isEmpty = false := by simp [h]
    simp [partition, hne, h, length_cutInto, partLengths]

/-- No block of a partition is empty. -/
theorem ne_nil_of_mem_partition {p : List α} (hp : p ∈ partition domain groups) : p ≠ [] := by
  by_cases h : domain = []
  · subst h
    cases hp
  · have hpos : 0 < domain.length := List.length_pos_iff.mpr h
    have hn : 0 < min (max groups 1) domain.length := by omega
    have hne : domain.isEmpty = false := by simp [h]
    simp only [partition, hne, Bool.false_eq_true, if_false] at hp
    -- each block is as long as its entry of the part lengths, which is positive
    have hmap := map_length_cutInto _ domain (total_partLengths domain.length _ hn)
    intro hnil
    have hlen : p.length ∈ (cutInto (partLengths domain.length
        (min (max groups 1) domain.length)) domain).map List.length := List.mem_map_of_mem hp
    rw [hmap, hnil] at hlen
    exact absurd (pos_of_mem_partLengths _ _ _ hn (Nat.min_le_right _ _) hlen) (Nat.lt_irrefl 0)

end Partition

/-- Of blocks none of which is empty, the last elements are one per block. -/
theorem map_some_filterMap_getLast? {α : Type} :
    ∀ {ps : List (List α)}, (∀ p ∈ ps, p ≠ []) →
      (ps.filterMap List.getLast?).map some = ps.map List.getLast?
  | [], _ => rfl
  | p :: ps, h => by
    obtain ⟨x, hx⟩ : ∃ x, p.getLast? = some x :=
      Option.isSome_iff_exists.mp (List.getLast?_isSome.mpr (h p List.mem_cons_self))
    rw [List.filterMap_cons, hx, List.map_cons, List.map_cons, hx,
      map_some_filterMap_getLast? fun q hq => h q (List.mem_cons_of_mem p hq)]

/-! ### Hour groups -/

/-- The lists of hour groups read off blocks of labels: the values numbered from `001`, one per
block, the last label of each block, and each block's labels joined by `_`. -/
structure HourGroups.Blocks (g : HourGroups) (blocks : List (List String)) : Prop where
  /-- The values `001` up to the number of blocks. -/
  labels : g.labels = (List.range blocks.length).map fun i => Text.padded 3 ((i + 1 : Nat) : Int)
  /-- The last label of each block, in block order. -/
  anchors : g.anchors.map some = blocks.map List.getLast?
  /-- The labels of each block joined by `_`, in block order. -/
  lists : g.lists = blocks.map (String.intercalate "_")

theorem HourGroups.Blocks.length_anchors {g : HourGroups} {blocks : List (List String)}
    (h : g.Blocks blocks) : g.anchors.length = g.labels.length := by
  have := congrArg List.length h.anchors
  simp only [List.length_map] at this
  simp [h.labels, this]

theorem HourGroups.Blocks.length_lists {g : HourGroups} {blocks : List (List String)}
    (h : g.Blocks blocks) : g.lists.length = g.labels.length := by
  simp [h.labels, h.lists]

/-- Hour groups are read off the blocks of the partitioned hour labels. -/
theorem hourGroups_blocks (hours : List Int) (groups : Nat) :
    (hourGroups hours groups).Blocks (partition (hours.map hourLabel) groups) where
  labels := rfl
  anchors := map_some_filterMap_getLast? fun _ hp => ne_nil_of_mem_partition hp
  lists := rfl

/-- Splitting the joined lists of hour groups at `_` gives back every hour label in order. -/
theorem hourGroups_fields (hours : List Int) (groups : Nat) :
    ((hourGroups hours groups).lists.map (Text.fieldsOf '_')).flatten = hours.map hourLabel := by
  rw [(hourGroups_blocks hours groups).lists, List.map_map]
  -- each block joins labels free of `_`, so its list splits back into the block
  have hblock : ∀ p ∈ partition (hours.map hourLabel) groups,
      (Text.fieldsOf '_' ∘ String.intercalate "_") p = p := by
    intro p hp
    show Text.fieldsOf '_' (String.intercalate (String.singleton '_') p) = p
    refine Text.fieldsOf_intercalate ?_ (ne_nil_of_mem_partition hp)
    intro x hx
    have hmem : x ∈ hours.map hourLabel := by
      rw [← flatten_partition (hours.map hourLabel) groups]
      exact List.mem_flatten.mpr ⟨p, hp, hx⟩
    obtain ⟨h, -, rfl⟩ := List.mem_map.mp hmem
    exact underscore_not_mem_hourLabel h
  rw [List.map_congr_left hblock, List.map_id', flatten_partition]

/-- Side tables as long as the values never fail the length check. -/
theorem FanOut.mismatchedTable?_eq_none {f : FanOut}
    (h : ∀ t ∈ f.sideTables, t.2.length = f.values.length) : f.mismatchedTable? = none := by
  unfold mismatchedTable?
  rw [List.find?_eq_none]
  intro t ht
  simp [h t ht]

/-- A fan-out with values and side tables as long as its values passes its check. -/
theorem FanOut.check_eq_ok {f : FanOut} (hv : f.values ≠ [])
    (h : ∀ t ∈ f.sideTables, t.2.length = f.values.length) (task : String) :
    f.check task = .ok () := by
  have hne : f.values.isEmpty = false := by simpa using hv
  simp only [check, hne, Bool.false_eq_true, if_false, mismatchedTable?_eq_none h]
  rfl

/-! ### Post-processing -/

namespace Products

variable {c : Context}

/-- The post-processing fan-out: hour groups as values, their last labels under `dep` and
their joined labels under `lst`. -/
theorem post_fanOut {orForecast : Bool} {s : TaskSpec} (h : post c orForecast = .ok s) :
    ∃ hours groups, postHours c = .ok hours ∧ hours ≠ [] ∧ postGroupCount c = .ok groups ∧
      s.fanOut = some (((FanOut.new (c.name .post) "grp" (hourGroups hours groups).labels).withTable
        "dep" (hourGroups hours groups).anchors).withTable "lst" (hourGroups hours groups).lists) := by
  unfold post at h
  obtain ⟨hours, hh, h⟩ := exists_ok_of_bind_ok h
  cases he : hours.isEmpty
  · rw [he] at h
    obtain ⟨groups, hg, h⟩ := exists_ok_of_bind_ok h
    obtain rfl := Except.ok.inj h
    exact ⟨hours, groups, hh, fun e => by simp [e] at he, hg, rfl⟩
  · simp [he, bind, Except.bind, throw, throwThe, MonadExceptOf.throw] at h

/-- Post-processing refuses an empty forecast-hour domain. -/
theorem post_of_empty (hh : postHours c = .ok []) (orForecast : Bool) :
    post c orForecast = .error (.invalidFanOut (c.name .post) "forecast-hour range is empty") := by
  simp [post, hh, bind, Except.bind, throw, throwThe, MonadExceptOf.throw]

end Products

/-! ### Ensemble post-processing -/

namespace Cycled

variable {c : Context}

/-- The ensemble post-processing fan-out: hour groups of the ensemble's hours as values, their
joined labels under `lst`. -/
theorem describe_epos_fanOut {s : TaskSpec} (h : describe c .epos = .ok s) :
    ∃ fhmin fhmax fhout n, (c.scope .epos).intOr "FHMIN_ENKF" 3 = .ok fhmin ∧
      (c.scope .epos).intOr "FHMAX_ENKF" 9 = .ok fhmax ∧
      (c.scope .epos).intOr "FHOUT_ENKF" 3 = .ok fhout ∧
      (c.scope .epos).intOr "NEPGRP" 3 = .ok n ∧
      s.fanOut = some ((FanOut.new (c.metataskName "epmn") "grp"
        (hourGroups (hourRange fhmin fhmax fhout) (if n < 0 then 1 else n.toNat)).labels).withTable
          "lst" (hourGroups (hourRange fhmin fhmax fhout) (if n < 0 then 1 else n.toNat)).lists) := by
  simp only [describe] at h
  obtain ⟨fan, hfan, h⟩ := exists_ok_of_bind_ok h
  obtain rfl := Except.ok.inj h
  unfold ensembleHourGroups at hfan
  obtain ⟨fhmin, h1, hfan⟩ := exists_ok_of_bind_ok hfan
  obtain ⟨fhmax, h2, hfan⟩ := exists_ok_of_bind_ok hfan
  obtain ⟨fhout, h3, hfan⟩ := exists_ok_of_bind_ok hfan
  obtain ⟨n, h4, hfan⟩ := exists_ok_of_bind_ok hfan
  obtain rfl := Except.ok.inj hfan
  exact ⟨fhmin, fhmax, fhout, n, h1, h2, h3, h4, rfl⟩

end Cycled

/-- The catalog's check refuses a fan-out without values on a running cadence. -/
theorem Catalog.checkSpec_no_values {cal : Calendar} {s : TaskSpec} {f : FanOut}
    (hv : cal.isValid s.cadence = true) (hf : s.fanOut = some f) (hnil : f.values = []) :
    Catalog.checkSpec cal s = .error (.invalidFanOut s.name
      ("metatask '" ++ f.metatask ++ "' has no values for '" ++ f.var ++ "'")) := by
  simp [Catalog.checkSpec, hv, hf, FanOut.check, hnil, bind, Except.bind, throw, throwThe,
    MonadExceptOf.throw]

/-! ### Consistency -/

/-- **Forecast-hour fan-outs are consistent.** Hour groups have one value, one last label and
one joined list per block of the partitioned hour labels, with as many blocks as the group
count clamped to between one and the number of hours, and the joined lists split back into the
labels of the domain. Post-processing fans out over the groups of its domain (the group count
`NPOSTGRP`, a negative count read as one), with side tables `dep` and `lst` that pass the
fan-out check, and refuses an empty domain. The ensemble post-processing of a cycled
experiment fans out over the groups of `FHMIN_ENKF` to `FHMAX_ENKF` every `FHOUT_ENKF` hours
(`NEPGRP` groups) with the side table `lst`, whose length never fails the check; an empty
domain leaves it without values, which the catalog's check refuses. -/
theorem hourFanOuts_consistent :
    (∀ (hours : List Int) (groups : Nat),
      (partition (hours.map hourLabel) groups).length =
          (if hours = [] then 0 else min (max groups 1) hours.length) ∧
        (hourGroups hours groups).Blocks (partition (hours.map hourLabel) groups) ∧
        ((hourGroups hours groups).lists.map (Text.fieldsOf '_')).flatten =
          hours.map hourLabel) ∧
    (∀ (c : Context) (orForecast : Bool) (s : TaskSpec), Products.post c orForecast = .ok s →
      ∃ hours k fan, Products.postHours c = .ok hours ∧ hours ≠ [] ∧
        (c.scope .post).intOr "NPOSTGRP" 1 = .ok k ∧ s.fanOut = some fan ∧
        fan.values = (hourGroups hours (if k < 0 then 1 else k.toNat)).labels ∧
        fan.sideTables = [("dep", (hourGroups hours (if k < 0 then 1 else k.toNat)).anchors),
          ("lst", (hourGroups hours (if k < 0 then 1 else k.toNat)).lists)] ∧
        fan.check s.name = .ok ()) ∧
    (∀ (c : Context) (orForecast : Bool), Products.postHours c = .ok [] →
      Products.post c orForecast =
        .error (.invalidFanOut (c.name .post) "forecast-hour range is empty")) ∧
    (∀ (c : Context) (s : TaskSpec), Cycled.describe c .epos = .ok s →
      ∃ fhmin fhmax fhout k fan, (c.scope .epos).intOr "FHMIN_ENKF" 3 = .ok fhmin ∧
        (c.scope .epos).intOr "FHMAX_ENKF" 9 = .ok fhmax ∧
        (c.scope .epos).intOr "FHOUT_ENKF" 3 = .ok fhout ∧
        (c.scope .epos).intOr "NEPGRP" 3 = .ok k ∧ s.fanOut = some fan ∧
        fan.values = (hourGroups (hourRange fhmin fhmax fhout) (if k < 0 then 1 else k.toNat)).labels ∧
        fan.sideTables =
          [("lst", (hourGroups (hourRange fhmin fhmax fhout) (if k < 0 then 1 else k.toNat)).lists)] ∧
        fan.var = "grp" ∧ fan.mismatchedTable? = none ∧
        (hourRange fhmin fhmax fhout = [] → fan.values = [] ∧
          ∀ cal : Calendar, cal.isValid s.cadence = true →
            Catalog.checkSpec cal s = .error (.invalidFanOut s.name
              ("metatask '" ++ fan.metatask ++ "' has no values for '" ++ fan.var ++ "'")))) := by
  refine ⟨fun hours groups => ⟨by simp [length_partition], hourGroups_blocks hours groups,
    hourGroups_fields hours groups⟩, ?post,
    fun c orForecast hh => Products.post_of_empty hh orForecast, ?epos⟩
  case post =>
    intro c orForecast s h
    obtain ⟨hours, groups, hh, hne, hg, hfan⟩ := Products.post_fanOut h
    unfold Products.postGroupCount at hg
    obtain ⟨k, hk, hg⟩ := exists_ok_of_bind_ok hg
    obtain rfl := Except.ok.inj hg
    have hb := hourGroups_blocks hours (if k < 0 then 1 else k.toNat)
    -- the values are the labels of a nonempty partition, so there is at least one
    have hvals : (hourGroups hours (if k < 0 then 1 else k.toNat)).labels ≠ [] := by
      rw [hb.labels]
      have := length_partition (hours.map hourLabel) (if k < 0 then 1 else k.toNat)
      simp only [List.map_eq_nil_iff, hne, if_false] at this
      simp [this]
      omega
    refine ⟨hours, k, _, hh, hne, hk, hfan, rfl, rfl, FanOut.check_eq_ok hvals ?_ s.name⟩
    -- the two side tables, in name order, one entry per group each
    show ∀ t ∈ [("dep", (hourGroups hours (if k < 0 then 1 else k.toNat)).anchors),
      ("lst", (hourGroups hours (if k < 0 then 1 else k.toNat)).lists)], _
    intro t ht
    simp only [List.mem_cons, List.not_mem_nil, or_false] at ht
    rcases ht with rfl | rfl
    · exact hb.length_anchors
    · exact hb.length_lists
  case epos =>
    intro c s h
    obtain ⟨fhmin, fhmax, fhout, k, h1, h2, h3, h4, hfan⟩ := Cycled.describe_epos_fanOut h
    have hb := hourGroups_blocks (hourRange fhmin fhmax fhout) (if k < 0 then 1 else k.toNat)
    refine ⟨fhmin, fhmax, fhout, k, _, h1, h2, h3, h4, hfan, rfl, rfl, rfl, ?_, ?_⟩
    · apply FanOut.mismatchedTable?_eq_none
      show ∀ t ∈ [("lst", (hourGroups (hourRange fhmin fhmax fhout)
        (if k < 0 then 1 else k.toNat)).lists)], _
      intro t ht
      rw [List.mem_singleton] at ht
      subst ht
      exact hb.length_lists
    · intro hempty
      -- no hours, no blocks, so no values
      have hvals : (hourGroups (hourRange fhmin fhmax fhout) (if k < 0 then 1 else k.toNat)).labels
          = [] := by
        rw [hb.labels, length_partition]
        simp [hempty]
      exact ⟨hvals, fun cal hv => Catalog.checkSpec_no_values hv hfan hvals⟩

end CycledWorkflow
