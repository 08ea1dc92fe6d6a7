import CycledWorkflow.Time.Moment
/-!
# Written moments read back

Day counts and civil dates convert by the era arithmetic: eras of 400 years, 146097 days, of
years that start in March, so that a leap day falls last in its year. Every day of an era lies
in one of its four centuries, one of the 25 four-year blocks of the century and one of the four
years of the block; only the last year of a block has a 366th day, and of the last block of a
century only in the last century of the era (`EraDay`). From that split, the civil date of a
day count is a valid date (`civilFromDays_valid`) whose day count is the one it came from
(`daysFromCivil_civilFromDays`).

A timestamp is read from four digits of year, two each of month, day and hour, and optionally
two of minute (`parseStamp_written_tail`). A moment on the hour whose year has four digits is
written in that form and reads back as itself (`parseStamp_ymdh`), and every moment from one
timestamp to another has such a year (`parseStamp_ymdh_of_between`).

Main statement: `parseStamp_ymdh_of_between`.
-/

namespace CycledWorkflow

/-! ### Days of an era -/

/-- The day `doe` of an era (from the 1st of March of its first year) split into a century `c`,
a four-year block `q` of the century, a year `t` of the block and a day `j` of that year. -/
structure EraDay (doe c q t j : Int) : Prop where
  century : 0 ≤ c ∧ c ≤ 3
  block : 0 ≤ q ∧ q ≤ 24
  year : 0 ≤ t ∧ t ≤ 3
  day : 0 ≤ j ∧ j ≤ 365
  /-- A 366th day ends a block, and the last block of a century only in the fourth century. -/
  leap : j = 365 → t = 3 ∧ (q < 24 ∨ c = 3)
  eq : doe = 36524 * c + 1461 * q + 365 * t + j

/-- Every day of an era splits into its century, block, year and day. -/
theorem exists_eraDay {doe : Int} (h0 : 0 ≤ doe) (h1 : doe ≤ 146096) :
    ∃ c q t j, EraDay doe c q t j := by
  -- the fourth century and the last block of each century take the days left over
  obtain ⟨c, hc⟩ : ∃ c, c = min (doe / 36524) 3 := ⟨_, rfl⟩
  obtain ⟨q, hq⟩ : ∃ q, q = min ((doe - 36524 * c) / 1461) 24 := ⟨_, rfl⟩
  obtain ⟨t, ht⟩ : ∃ t, t = min ((doe - 36524 * c - 1461 * q) / 365) 3 := ⟨_, rfl⟩
  exact ⟨c, q, t, doe - 36524 * c - 1461 * q - 365 * t,
    ⟨by omega, by omega, by omega, by omega, by omega, by omega⟩⟩

section EraDay

variable {doe c q t j : Int}

/-- The year of the era counts the whole years before the day: the quotients by four years, a
century and an era each add or remove the leap days they hold. -/
theorem EraDay.yoe_eq (h : EraDay doe c q t j) :
    (doe - doe / 1460 + doe / 36524 - doe / 146096) / 365 = 100 * c + 4 * q + t := by
  obtain ⟨⟨hc0, hc⟩, ⟨hq0, hq⟩, ⟨ht0, ht⟩, ⟨hj0, hj⟩, hl, rfl⟩ := h
  -- one quotient at a time: each is a whole count plus a correction of at most one
  have h4 : (36524 * c + 1461 * q + 365 * t + j) / 1460 =
      25 * c + q + if t = 3 ∧ 365 ≤ 24 * c + q + j then 1 else 0 := by
    split <;> omega
  have h100 : (36524 * c + 1461 * q + 365 * t + j) / 36524 =
      c + if q = 24 ∧ t = 3 ∧ j = 365 then 1 else 0 := by
    split <;> omega
  have h400 : (36524 * c + 1461 * q + 365 * t + j) / 146096 =
      if 36524 * c + 1461 * q + 365 * t + j = 146096 then 1 else 0 := by
    split <;> omega
  rw [h4, h100, h400]
  split <;> split <;> split <;> omega

/-- The days of the era before the year of the day leave the day of the year. -/
theorem EraDay.doy_eq (h : EraDay doe c q t j) :
    doe - (365 * (100 * c + 4 * q + t) + (100 * c + 4 * q + t) / 4 -
      (100 * c + 4 * q + t) / 100) = j := by
  obtain ⟨⟨hc0, hc⟩, ⟨hq0, hq⟩, ⟨ht0, ht⟩, -, -, rfl⟩ := h
  omega

end EraDay

/-! ### Dates of a year counted from March -/

/-- The civil date of the day `doy` of the year `y` counted from the 1st of March: months of 31,
30, 31, 30, 31, 31, 30, 31, 30, 31 and 31 days, then February, which belongs to the next civil
year. -/
def marchDate (y doy : Int) : Int × Nat × Nat :=
  let mp := (5 * doy + 2) / 153
  let d := doy - (153 * mp + 2) / 5 + 1
  let m := if mp < 10 then mp + 3 else mp - 9
  (if m ≤ 2 then y + 1 else y, m.toNat, d.toNat)

/-- The civil date of a day count is the date of its day in its year counted from March, in its
era. -/
theorem civilFromDays_eq_marchDate (z : Int) :
    ∃ era c q t j, z + 719468 = era * 146097 + (36524 * c + 1461 * q + 365 * t + j) ∧
      EraDay (36524 * c + 1461 * q + 365 * t + j) c q t j ∧
      civilFromDays z = marchDate (100 * c + 4 * q + t + era * 400) j := by
  obtain ⟨era, doe, hE, hD, h0, h1⟩ : ∃ era doe : Int, (z + 719468) / 146097 = era ∧
      z + 719468 - era * 146097 = doe ∧ 0 ≤ doe ∧ doe ≤ 146096 :=
    ⟨_, _, rfl, rfl, by omega, by omega⟩
  obtain ⟨c, q, t, j, hd⟩ := exists_eraDay h0 h1
  have heq := hd.eq
  subst heq
  refine ⟨era, c, q, t, j, by omega, hd, ?_⟩
  simp only [civilFromDays, hE, hD, hd.yoe_eq, hd.doy_eq]
  rfl

/-- The month index from March of a day of a year counted from March is one of twelve, and
the day lies within that month. -/
theorem monthIndex_bounds {j : Int} (h0 : 0 ≤ j) (h1 : j ≤ 365) :
    0 ≤ (5 * j + 2) / 153 ∧ (5 * j + 2) / 153 ≤ 11 ∧ 153 * ((5 * j + 2) / 153) ≤ 5 * j + 2 ∧
      5 * j + 2 < 153 * ((5 * j + 2) / 153) + 153 := by
  omega

/-- One of the twelve month indices. -/
theorem monthIndex_cases {mp : Int} (h0 : 0 ≤ mp) (h1 : mp ≤ 11) :
    mp = 0 ∨ mp = 1 ∨ mp = 2 ∨ mp = 3 ∨ mp = 4 ∨ mp = 5 ∨ mp = 6 ∨ mp = 7 ∨ mp = 8 ∨ mp = 9 ∨
      mp = 10 ∨ mp = 11 := by
  omega

/-- The day count of a March-counted date is the day count it came from. -/
theorem daysFromCivil_civilFromDays (z : Int) :
    daysFromCivil (civilFromDays z).1 (civilFromDays z).2.1 (civilFromDays z).2.2 = z := by
  obtain ⟨era, c, q, t, j, hz, ⟨⟨hc0, hc⟩, ⟨hq0, hq⟩, ⟨ht0, ht⟩, ⟨hj0, hj⟩, -, -⟩, hciv⟩ :=
    civilFromDays_eq_marchDate z
  rw [hciv]
  -- the year of the era and its whole divisions come back from the civil year
  have hera : (100 * c + 4 * q + t + era * 400) / 400 = era := by omega
  have h4 : (100 * c + 4 * q + t) / 4 = 25 * c + q := by omega
  have h100 : (100 * c + 4 * q + t) / 100 = c := by omega
  obtain ⟨hm0, hm1, hmlo, hmhi⟩ := monthIndex_bounds hj0 hj
  simp only [marchDate, daysFromCivil]
  -- month by month, the day of the year is the month's first day plus the day of the month
  rcases monthIndex_cases hm0 hm1 with hm | hm | hm | hm | hm | hm | hm | hm | hm | hm | hm | hm <;>
  · simp [hm, hera, h4, h100]
    omega

/-- The 366th day of a March-counted year is the 29th of February of a leap year. -/
theorem EraDay.isLeapYear_of_last {era : Int} (h : EraDay doe c q t j) (hj : j = 365) :
    isLeapYear (100 * c + 4 * q + t + era * 400 + 1) = true := by
  obtain ⟨⟨hc0, hc⟩, ⟨hq0, hq⟩, -, -, hl, -⟩ := h
  obtain ⟨rfl, hq'⟩ := hl hj
  simp only [isLeapYear, Bool.and_eq_true, beq_iff_eq, Bool.or_eq_true, bne_iff_ne, ne_eq]
  omega

/-- The civil date of a day count is a valid date: a month from 1 to 12 and a day of that
month. -/
theorem civilFromDays_valid (z : Int) :
    1 ≤ (civilFromDays z).2.1 ∧ (civilFromDays z).2.1 ≤ 12 ∧ 1 ≤ (civilFromDays z).2.2 ∧
      (civilFromDays z).2.2 ≤ daysInMonth (civilFromDays z).1 (civilFromDays z).2.1 := by
  obtain ⟨era, c, q, t, j, -, hd, hciv⟩ := civilFromDays_eq_marchDate z
  obtain ⟨hj0, hj⟩ := hd.day
  rw [hciv]
  obtain ⟨hm0, hm1, hmlo, hmhi⟩ := monthIndex_bounds hj0 hj
  simp only [marchDate]
  rcases monthIndex_cases hm0 hm1 with hm | hm | hm | hm | hm | hm | hm | hm | hm | hm | hm | hm
  case inr.inr.inr.inr.inr.inr.inr.inr.inr.inr.inr =>
    -- February has its 29th day in the leap years only
    simp only [hm]
    by_cases hl : j = 365
    · simp [daysInMonth, hd.isLeapYear_of_last hl]
      omega
    · simp [daysInMonth]
      split <;> omega
  all_goals
    simp [hm, daysInMonth]
    omega

/-! ### Four-digit years -/

/-- The days from 0000-01-01 to 9999-12-31 have years of four digits. -/
theorem civilFromDays_year_bounds {z : Int} (h0 : -719528 ≤ z) (h1 : z ≤ 2932896) :
    0 ≤ (civilFromDays z).1 ∧ (civilFromDays z).1 ≤ 9999 := by
  obtain ⟨era, c, q, t, j, hz, hd, hciv⟩ := civilFromDays_eq_marchDate z
  obtain ⟨⟨hc0, hc⟩, ⟨hq0, hq⟩, ⟨ht0, ht⟩, ⟨hj0, hj⟩, -, -⟩ := hd
  rw [hciv]
  obtain ⟨hm0, hm1, hmlo, hmhi⟩ := monthIndex_bounds hj0 hj
  -- the first era before the epoch contributes only its last January and February, and the
  -- era of the year 9600 nothing after its last December
  have hlo : 0 ≤ era ∨ (era = -1 ∧ c = 3 ∧ q = 24 ∧ t = 3 ∧ 306 ≤ j) := by omega
  have hhi : era < 24 ∨ (era = 24 ∧ (100 * c + 4 * q + t < 399 ∨ j ≤ 305)) := by omega
  simp only [marchDate]
  -- January and February count to the next year
  by_cases hlt : (5 * j + 2) / 153 < 10
  · simp only [hlt, if_true]
    split <;> omega
  · simp only [hlt, if_false]
    split <;> omega

/-- No month has more than 31 days. -/
theorem daysInMonth_le (y : Int) (m : Nat) : daysInMonth y m ≤ 31 := by
  unfold daysInMonth
  split
  · split <;> omega
  all_goals omega

/-- A date of a four-digit year lies between 0000-01-01 and 9999-12-31. -/
theorem daysFromCivil_bounds {y : Int} {m d : Nat} (hy0 : 0 ≤ y) (hy1 : y ≤ 9999)
    (hm1 : 1 ≤ m) (hm : m ≤ 12) (hd1 : 1 ≤ d) (hd : d ≤ 31) :
    -719528 ≤ daysFromCivil y m d ∧ daysFromCivil y m d ≤ 2932896 := by
  simp only [daysFromCivil]
  by_cases h2 : m ≤ 2
  · have h2' : ¬2 < m := by omega
    simp only [h2, h2', if_true, if_false]
    omega
  · have h2' : 2 < m := by omega
    simp only [h2, h2', if_true, if_false]
    omega

/-! ### Digits -/

/-- A digit is not blank. -/
theorem Text.isBlank_of_isDigit {c : Char} (h : c.isDigit = true) : Text.isBlank c = false := by
  have hc : 48 ≤ c.toNat ∧ c.toNat ≤ 57 := by
    simp only [Char.isDigit, Bool.and_eq_true, decide_eq_true_eq] at h
    exact ⟨h.1, h.2⟩
  simp only [Text.isBlank, Bool.or_eq_false_iff, Bool.and_eq_false_iff, beq_eq_false_iff_ne,
    decide_eq_false_iff_not, ne_eq]
  omega

/-- The digits of a number fit a width when the number is below that power of ten. -/
theorem Text.length_toDigits_le {n w : Nat} (hw : 0 < w) (h : n < Nat.pow 10 w) :
    (Nat.toDigits 10 n).length ≤ w :=
  (Nat.length_toDigits_le_iff (by decide) hw).mpr h

/-- A number written with at least `w` digits: zeros, then its digits. -/
theorem Text.toList_padded (w n : Nat) :
    (Text.padded w n).toList =
      List.replicate (w - (Nat.toDigits 10 n).length) '0' ++ Nat.toDigits 10 n := by
  have hn : ¬((n : Int) < 0) := by omega
  simp [Text.padded, hn]

/-- A number whose digits fit a width is written with exactly that many. -/
theorem Text.length_padded {w n : Nat} (h : (Nat.toDigits 10 n).length ≤ w) :
    (Text.padded w n).toList.length = w := by
  rw [Text.toList_padded, List.length_append, List.length_replicate]
  omega

/-- A number is written in digits only. -/
theorem Text.isDigit_of_mem_padded {w n : Nat} {c : Char} (hc : c ∈ (Text.padded w n).toList) :
    c.isDigit = true := by
  rw [Text.toList_padded, List.mem_append] at hc
  rcases hc with hc | hc
  · rw [List.eq_of_mem_replicate hc]
    rfl
  · exact Nat.isDigit_of_mem_toDigits (by decide) (by decide) hc

namespace Moment

/-- One more digit multiplies the value so far by ten. -/
theorem digitsValue_append_digit (cs : List Char) (c : Char) :
    digitsValue (cs ++ [c]) = digitsValue cs * 10 + (c.toNat - 48) := by
  simp only [digitsValue, List.foldl_append, List.foldl_cons, List.foldl_nil]
  rfl

/-- Leading zeros add nothing. -/
theorem digitsValue_replicate_zero_append (k : Nat) (cs : List Char) :
    digitsValue (List.replicate k '0' ++ cs) = digitsValue cs := by
  have hz : digitsValue (List.replicate k '0') = 0 := by
    induction k with
    | zero => rfl
    | succ k ih => rw [List.replicate_succ', digitsValue_append_digit, ih]; rfl
  simp only [digitsValue, List.foldl_append]
  exact congrArg (fun a => cs.foldl _ a) hz

/-- The digits of a number read back as the number. -/
theorem digitsValue_toDigits (n : Nat) : digitsValue (Nat.toDigits 10 n) = n := by
  induction n using Nat.strongRecOn with
  | ind n ih =>
    rw [Nat.toDigits_eq_if (by decide)]
    split
    · next hn =>
      rw [← List.nil_append [_], digitsValue_append_digit, Nat.toNat_digitChar_of_lt_ten hn]
      show 0 * 10 + (48 + n - 48) = n
      omega
    · next hn =>
      rw [digitsValue_append_digit, ih (n / 10) (by omega),
        Nat.toNat_digitChar_of_lt_ten (Nat.mod_lt n (by decide))]
      omega

/-- A written number reads back as itself. -/
theorem digitsValue_padded (w n : Nat) : digitsValue (Text.padded w n).toList = n := by
  rw [Text.toList_padded, digitsValue_replicate_zero_append, digitsValue_toDigits]

/-- Digits read as a number below the power of ten of their count. -/
theorem digitsValue_lt {cs : List Char} (h : ∀ c ∈ cs, c.isDigit = true) :
    digitsValue cs < Nat.pow 10 cs.length := by
  -- digits are read from the left, so the induction adds one digit at the right
  obtain ⟨l, rfl⟩ : ∃ l, cs = l.reverse := ⟨cs.reverse, (List.reverse_reverse cs).symm⟩
  induction l with
  | nil => decide
  | cons c l ih =>
    rw [List.reverse_cons] at h ⊢
    have hc : 48 ≤ c.toNat ∧ c.toNat ≤ 57 := by
      have := h c (List.mem_append_right _ (List.mem_singleton_self c))
      simp only [Char.isDigit, Bool.and_eq_true, decide_eq_true_eq] at this
      exact ⟨this.1, this.2⟩
    have hcs := ih fun c' hc' => h c' (List.mem_append_left [c] hc')
    rw [digitsValue_append_digit, List.length_append, List.length_singleton]
    show _ < Nat.pow 10 l.reverse.length * 10
    omega

end Moment

namespace Moment

/-! ### Timestamps read back -/

/-- A date and hour written with four, two, two and two digits, then no minutes or two digits of
them, reads back as the moment of that date, hour and minute. -/
theorem parseStamp_written_tail {y m d h mi : Nat} {tail : String} (hy : y ≤ 9999)
    (hm1 : 1 ≤ m) (hm : m ≤ 12) (hd1 : 1 ≤ d) (hd : d ≤ daysInMonth y m) (hh : h < 24)
    (hlen : tail.toList.length = 0 ∨ tail.toList.length = 2)
    (hdig : ∀ c ∈ tail.toList, c.isDigit = true) (hmi : digitsValue tail.toList = mi)
    (hmi60 : mi < 60) :
    parseStamp (Text.padded 4 y ++ two m ++ two d ++ two h ++ tail) =
      some (ofCivil y m d h mi 0) := by
  -- the four fields have their full widths
  have hY := Text.length_padded (Text.length_toDigits_le (w := 4) (n := y) (by decide)
    (show y < 10000 by omega))
  have hM := Text.length_padded (Text.length_toDigits_le (w := 2) (n := m) (by decide)
    (show m < 100 by omega))
  have hD := Text.length_padded (Text.length_toDigits_le (w := 2) (n := d) (by decide)
    (show d < 100 by have := daysInMonth_le y m; omega))
  have hH := Text.length_padded (Text.length_toDigits_le (w := 2) (n := h) (by decide)
    (show h < 100 by omega))
  generalize hcs : (Text.padded 4 y).toList ++ ((Text.padded 2 m).toList ++
    ((Text.padded 2 d).toList ++ ((Text.padded 2 h).toList ++ tail.toList))) = cs
  have htext : (Text.padded 4 y ++ two m ++ two d ++ two h ++ tail).toList = cs := by
    simp only [two, String.toList_append, List.append_assoc, hcs]
  -- every character is a digit, so trimming keeps them all
  have hdigit : ∀ c ∈ cs, c.isDigit = true := by
    intro c hc
    simp only [← hcs, List.mem_append] at hc
    rcases hc with hc | hc | hc | hc | hc
    case inr.inr.inr.inr => exact hdig c hc
    all_goals exact Text.isDigit_of_mem_padded hc
  have htrim : Text.trimChars cs = cs :=
    Text.trimChars_eq_self_of_ends cs
      (fun c hc => Text.isBlank_of_isDigit (hdigit c (List.mem_of_mem_head? hc)))
      (fun c hc => Text.isBlank_of_isDigit (hdigit c (List.mem_of_mem_getLast? hc)))
  have hlen' : cs.length = 10 ∨ cs.length = 12 := by
    simp only [← hcs, List.length_append, hY, hM, hD, hH]
    omega
  have hall : cs.all Char.isDigit = true := List.all_eq_true.mpr hdigit
  -- the fields are read from their places
  have hy' : digitsValue (cs.take 4) = y := by
    rw [← hcs, List.take_left' hY, digitsValue_padded]
  have hm' : digitsValue ((cs.drop 4).take 2) = m := by
    rw [← hcs, List.drop_left' hY, List.take_left' hM, digitsValue_padded]
  have hd' : digitsValue ((cs.drop 6).take 2) = d := by
    rw [show (6 : Nat) = 4 + 2 from rfl, ← List.drop_drop, ← hcs, List.drop_left' hY,
      List.drop_left' hM, List.take_left' hD, digitsValue_padded]
  have hh' : digitsValue ((cs.drop 8).take 2) = h := by
    rw [show (8 : Nat) = 4 + 2 + 2 from rfl, ← List.drop_drop, ← List.drop_drop, ← hcs,
      List.drop_left' hY, List.drop_left' hM, List.drop_left' hD, List.take_left' hH,
      digitsValue_padded]
  have hmi' : digitsValue ((cs.drop 10).take 2) = mi := by
    rw [show (10 : Nat) = 4 + 2 + 2 + 2 from rfl, ← List.drop_drop, ← List.drop_drop,
      ← List.drop_drop, ← hcs, List.drop_left' hY, List.drop_left' hM, List.drop_left' hD,
      List.drop_left' hH, List.take_of_length_le (by omega), hmi]
  unfold parseStamp
  simp only [htext, htrim, eq_true hlen', hall, hy', hm', hd', hh', hmi']
  simp [hm1, hm, hd1, hd, hh, hmi60]

/-- A date and hour written with four, two, two and two digits reads back as the moment of that
date and hour. -/
theorem parseStamp_written {y m d h : Nat} (hy : y ≤ 9999) (hm1 : 1 ≤ m) (hm : m ≤ 12)
    (hd1 : 1 ≤ d) (hd : d ≤ daysInMonth y m) (hh : h < 24) :
    parseStamp (Text.padded 4 y ++ two m ++ two d ++ two h) = some (ofCivil y m d h 0 0) := by
  rw [← @String.append_empty (Text.padded 4 y ++ two m ++ two d ++ two h)]
  exact parseStamp_written_tail hy hm1 hm hd1 hd hh (.inl rfl) (by simp) rfl (by decide)

/-- A moment on the hour from 0000-01-01 to 9999-12-31 is written as a timestamp that reads
back as the moment. -/
theorem parseStamp_ymdh {t : Moment} (hh : t.seconds % 3600 = 0)
    (h0 : -719528 ≤ t.dayNumber) (h1 : t.dayNumber ≤ 2932896) : parseStamp t.ymdh = some t := by
  obtain ⟨hm1, hm, hd1, hd⟩ := civilFromDays_valid t.dayNumber
  obtain ⟨hy0, hy⟩ := civilFromDays_year_bounds h0 h1
  have hz := daysFromCivil_civilFromDays t.dayNumber
  -- the civil date, with a year of four digits
  obtain ⟨⟨y, m, d⟩, hdate⟩ : ∃ p, civilFromDays t.dayNumber = p := ⟨_, rfl⟩
  simp only [hdate] at hm1 hm hd1 hd hy0 hy hz
  obtain ⟨n, rfl⟩ : ∃ n : Nat, y = n := ⟨y.toNat, by omega⟩
  have hhour : t.hour < 24 := by
    simp only [hour, secondOfDay]
    omega
  have hymdh : t.ymdh = Text.padded 4 n ++ two m ++ two d ++ two t.hour := by
    have hyear : yearText n = Text.padded 4 n := if_pos ⟨hy0, hy⟩
    simp only [ymdh, date, hdate, hyear]
  rw [hymdh, parseStamp_written (by omega) hm1 hm hd1 hd hhour]
  -- the day count and the hour make up the seconds of a moment on the hour
  simp only [ofCivil, hz, Option.some.injEq]
  cases t
  simp only [hour, secondOfDay, dayNumber, Moment.mk.injEq] at hh ⊢
  omega

/-- A timestamp reads as a moment from 0000-01-01 to 9999-12-31. -/
theorem dayNumber_bounds_of_parseStamp {text : String} {t : Moment}
    (h : parseStamp text = some t) : -719528 ≤ t.dayNumber ∧ t.dayNumber ≤ 2932896 := by
  unfold parseStamp at h
  dsimp only at h
  split at h
  · next hcs =>
    split at h
    · next hv =>
      obtain ⟨hm1, hm, hd1, hd, hh, hmi⟩ := hv
      obtain rfl := Option.some.inj h
      -- the year has four digits at most
      have hy : digitsValue (List.take 4 (Text.trimChars text.toList)) <
          Nat.pow 10 (List.take 4 (Text.trimChars text.toList)).length :=
        digitsValue_lt fun c hc => List.all_eq_true.mp hcs.2 c (List.mem_of_mem_take hc)
      have hy4 : (List.take 4 (Text.trimChars text.toList)).length ≤ 4 := List.length_take_le _ _
      have hpow : Nat.pow 10 (List.take 4 (Text.trimChars text.toList)).length ≤ 10000 :=
        Nat.le_trans (Nat.pow_le_pow_right (by decide) hy4) (by decide)
      have hy9 : digitsValue (List.take 4 (Text.trimChars text.toList)) ≤ 9999 := by omega
      have hb := daysFromCivil_bounds (Int.natCast_nonneg _) (Int.ofNat_le.mpr hy9) hm1 hm hd1
        (Nat.le_trans hd (daysInMonth_le _ _))
      simp only [ofCivil, dayNumber]
      omega
    · cases h
  · cases h

/-- Every moment on the hour between two timestamps is written as a timestamp that reads back
as the moment. -/
theorem parseStamp_ymdh_of_between {a b : String} {s e t : Moment}
    (ha : parseStamp a = some s) (hb : parseStamp b = some e) (hs : s ≤ t) (he : t ≤ e)
    (hh : t.seconds % 3600 = 0) : parseStamp t.ymdh = some t := by
  obtain ⟨hs0, -⟩ := dayNumber_bounds_of_parseStamp ha
  obtain ⟨-, he1⟩ := dayNumber_bounds_of_parseStamp hb
  have hst : s.seconds ≤ t.seconds := hs
  have hte : t.seconds ≤ e.seconds := he
  simp only [dayNumber] at hs0 he1
  exact parseStamp_ymdh hh (by simp only [dayNumber]; omega) (by simp only [dayNumber]; omega)
end Moment

end CycledWorkflow
