import CycledWorkflow.Proofs.Time.Offset
/-!
# Timestamp texts read back

A moment is written `YYYYMMDDHHMM` for a cycle (`Moment.stamp`) and `YYYYMMDDHH` for a
configuration value (`Moment.ymdh`), and a timestamp is read from either (`Moment.parseStamp`).
Over the years 0 to 9999 writing and reading are inverse in both directions. A moment on the
minute reads back from its twelve-digit text, and a moment on the hour from its ten-digit text
too (`parseStamp_stamp`, `parseStamp_ymdh_of_year`). Conversely every text read as a timestamp
is, once trimmed, the text of the moment read, in the form of its length
(`trimChars_eq_of_parseStamp`): days past the end of their month, leap days of common years, hours past 23 and
minutes past 59 are refused exactly where writing never produces them, and a year below 1000
reads back through its leading zeros.

Both directions rest on the civil calendar being a bijection between valid dates and day
counts. `daysFromCivil_civilFromDays` gives one half; the other is that the day count of a valid
date gives back the date (`civilFromDays_daysFromCivil`): the day of the era the date falls on
splits into century, four-year block, year and day exactly as the era arithmetic reads it back.

Moments are counted in whole seconds, so the moments of the text forms are those with second 0.

Main statement: `stamp_texts_round_trip`.
-/

namespace CycledWorkflow

/-! ### Civil dates from day counts -/

/-- The year a date falls in when years start in March: January and February belong to the year
before. -/
def marchYear (y : Int) (m : Nat) : Int := if m ≤ 2 then y - 1 else y

/-- The day of a date in its year counted from the 1st of March. -/
def marchDay (m d : Nat) : Int := (153 * (if 2 < m then (m : Int) - 3 else (m : Int) + 9) + 2) / 5 + d - 1

/-- The day count of a date is that of its day in its March-based year, in its era. -/
theorem daysFromCivil_eq (y : Int) (m d : Nat) :
    daysFromCivil y m d = marchYear y m / 400 * 146097 +
      ((marchYear y m - marchYear y m / 400 * 400) * 365 +
        (marchYear y m - marchYear y m / 400 * 400) / 4 -
        (marchYear y m - marchYear y m / 400 * 400) / 100 + marchDay m d) - 719468 := rfl

section Valid

variable {y : Int} {m d : Nat}

/-- The days of a valid month: at most 31, at most 30 in April, June, September and November,
and at most 29 in February. -/
theorem day_bounds_of_valid (hd : d ≤ daysInMonth y m) :
    d ≤ 31 ∧ (m = 2 → d ≤ 29) ∧ (m = 4 ∨ m = 6 ∨ m = 9 ∨ m = 11 → d ≤ 30) := by
  refine ⟨Nat.le_trans hd (daysInMonth_le y m), fun h => ?_, fun h => ?_⟩
  · subst h
    simp only [daysInMonth] at hd
    split at hd <;> omega
  · rcases h with rfl | rfl | rfl | rfl <;> simpa [daysInMonth] using hd

/-- One of the twelve months. -/
theorem month_cases (hm1 : 1 ≤ m) (hm : m ≤ 12) :
    m = 1 ∨ m = 2 ∨ m = 3 ∨ m = 4 ∨ m = 5 ∨ m = 6 ∨ m = 7 ∨ m = 8 ∨ m = 9 ∨ m = 10 ∨ m = 11 ∨
      m = 12 := by
  omega

/-- The month index from March of a valid date is the one its March-based day falls in. -/
theorem monthIndex_marchDay (hm1 : 1 ≤ m) (hm : m ≤ 12) (hd1 : 1 ≤ d)
    (hd : d ≤ daysInMonth y m) :
    (5 * marchDay m d + 2) / 153 = if 2 < m then (m : Int) - 3 else (m : Int) + 9 := by
  obtain ⟨h31, h29, h30⟩ := day_bounds_of_valid hd
  -- month by month, the day lies between the first days of this month and the next
  rcases month_cases hm1 hm with rfl | rfl | rfl | rfl | rfl | rfl | rfl | rfl | rfl | rfl | rfl |
    rfl <;> simp [marchDay] <;> omega

/-- The March-based day of a valid date lies in its year, and only the 29th of February is its
366th day. -/
theorem marchDay_bounds (hm1 : 1 ≤ m) (hm : m ≤ 12) (hd1 : 1 ≤ d) (hd : d ≤ daysInMonth y m) :
    0 ≤ marchDay m d ∧ marchDay m d ≤ 365 ∧ (marchDay m d = 365 → m = 2 ∧ d = 29) := by
  obtain ⟨h31, h29, h30⟩ := day_bounds_of_valid hd
  simp only [marchDay]
  split <;> omega

/-- A valid date read from March comes back as itself. -/
theorem marchDate_marchDay (hm1 : 1 ≤ m) (hm : m ≤ 12) (hd1 : 1 ≤ d)
    (hd : d ≤ daysInMonth y m) : marchDate (marchYear y m) (marchDay m d) = (y, m, d) := by
  simp only [marchDate]
  rw [monthIndex_marchDay hm1 hm hd1 hd]
  simp only [marchYear, marchDay]
  by_cases h2 : 2 < m
  · have h2' : ¬m ≤ 2 := by omega
    simp only [h2, h2', if_true, if_false, Prod.mk.injEq]
    omega
  · have h2' : m ≤ 2 := by omega
    simp only [h2, h2', if_true, if_false, Prod.mk.injEq]
    omega

/-- The 29th of February falls in a leap year. -/
theorem isLeapYear_of_feb29 (hd : 29 ≤ daysInMonth y 2) : isLeapYear y = true := by
  simp only [daysInMonth] at hd
  split at hd
  · assumption
  · omega

/-- The day of the era of a valid date splits into its century, block, year and day, as the
year of the era and the March-based day give them. -/
theorem eraDay_of_valid (hm1 : 1 ≤ m) (hm : m ≤ 12) (hd1 : 1 ≤ d) (hd : d ≤ daysInMonth y m)
    {yoe : Int} (hyoe : yoe = marchYear y m - marchYear y m / 400 * 400) :
    EraDay (36524 * (yoe / 100) + 1461 * (yoe % 100 / 4) + 365 * (yoe % 4) + marchDay m d)
      (yoe / 100) (yoe % 100 / 4) (yoe % 4) (marchDay m d) := by
  obtain ⟨hj0, hj, hleap⟩ := marchDay_bounds hm1 hm hd1 hd
  have hyoe' : 0 ≤ yoe ∧ yoe ≤ 399 := by omega
  refine ⟨by omega, by omega, by omega, ⟨hj0, hj⟩, fun h365 => ?_, rfl⟩
  -- the 366th day is the 29th of February, of a leap year, the year after `yoe` in the era
  obtain ⟨rfl, rfl⟩ := hleap h365
  have hl := isLeapYear_of_feb29 hd
  simp only [isLeapYear, Bool.and_eq_true, beq_iff_eq, Bool.or_eq_true, bne_iff_ne,
    ne_eq] at hl
  simp [marchYear] at hyoe
  omega

/-- The civil date of the day count of a valid date is that date. -/
theorem civilFromDays_daysFromCivil (hm1 : 1 ≤ m) (hm : m ≤ 12) (hd1 : 1 ≤ d)
    (hd : d ≤ daysInMonth y m) : civilFromDays (daysFromCivil y m d) = (y, m, d) := by
  obtain ⟨era, c, q, t, j, hz, hE', hciv⟩ := civilFromDays_eq_marchDate (daysFromCivil y m d)
  obtain ⟨Y, hY⟩ : ∃ Y, Y = marchYear y m := ⟨_, rfl⟩
  obtain ⟨yoe, hyoe⟩ : ∃ yoe, yoe = Y - Y / 400 * 400 := ⟨_, rfl⟩
  have hE := eraDay_of_valid hm1 hm hd1 hd (hY ▸ hyoe)
  -- both splits are of the same day count, so of the same era and the same day of it
  have hsplit : era = Y / 400 ∧ 36524 * c + 1461 * q + 365 * t + j =
      36524 * (yoe / 100) + 1461 * (yoe % 100 / 4) + 365 * (yoe % 4) + marchDay m d := by
    obtain ⟨⟨hc0, hc⟩, ⟨hq0, hq⟩, ⟨ht0, ht⟩, ⟨hj0, hj⟩, -, -⟩ := hE'
    obtain ⟨-, -, -, ⟨hk0, hk⟩, -, -⟩ := hE
    have hyears : yoe * 365 + yoe / 4 - yoe / 100 =
        36524 * (yoe / 100) + 1461 * (yoe % 100 / 4) + 365 * (yoe % 4) := by
      omega
    rw [daysFromCivil_eq, ← hY, ← hyoe, hyears] at hz
    omega
  obtain ⟨rfl, hdoe⟩ := hsplit
  -- and the same day of an era splits one way only
  have hyear : 100 * c + 4 * q + t = yoe := by
    have h1 := hE'.yoe_eq
    rw [hdoe, hE.yoe_eq] at h1
    omega
  have hday : j = marchDay m d := by
    have h1 := hE'.doy_eq
    have h2 := hE.doy_eq
    rw [hdoe, hyear] at h1
    have hsum : 100 * (yoe / 100) + 4 * (yoe % 100 / 4) + yoe % 4 = yoe := by omega
    rw [hsum] at h2
    omega
  have hmarch : 100 * c + 4 * q + t + Y / 400 * 400 = marchYear y m := by omega
  rw [hciv, hmarch, hday]
  exact marchDate_marchDay hm1 hm hd1 hd

-- day counts start at the epoch, 1970-01-01
example : daysFromCivil 1970 1 1 = 0 ∧ civilFromDays 0 = (1970, 1, 1) := by decide

end Valid

/-! ### Digit fields -/

/-- The first ten characters are the fields of four, two, two and two characters. -/
theorem take_ten_fields (cs : List Char) :
    cs.take 4 ++ (cs.drop 4).take 2 ++ (cs.drop 6).take 2 ++ (cs.drop 8).take 2 = cs.take 10 := by
  rw [show 10 = 4 + 2 + 2 + 2 from rfl, List.take_add, List.take_add, List.take_add]

namespace Moment

/-- A run of digits is how its value is written at the width of the run. -/
theorem padded_digitsValue {cs : List Char} (hd : ∀ c ∈ cs, c.isDigit = true)
    (hpos : 0 < cs.length) : (Text.padded cs.length (digitsValue cs)).toList = cs := by
  have hlen : (Text.padded cs.length (digitsValue cs)).toList.length = cs.length :=
    Text.length_padded (Text.length_toDigits_le hpos (digitsValue_lt hd))
  exact (Span.eq_of_digitsValue_eq hd (fun _ hc => Text.isDigit_of_mem_padded hc) hlen.symm
    (digitsValue_padded _ _).symm).symm

/-- The date, hour, minute and second of the moment of a valid date and time of day. -/
theorem ofCivil_fields {y : Int} {m d h mi : Nat} (hm1 : 1 ≤ m) (hm : m ≤ 12) (hd1 : 1 ≤ d)
    (hd : d ≤ daysInMonth y m) (hh : h < 24) (hmi : mi < 60) :
    (ofCivil y m d h mi 0).date = (y, m, d) ∧ (ofCivil y m d h mi 0).hour = h ∧
      (ofCivil y m d h mi 0).minute = mi ∧ (ofCivil y m d h mi 0).second = 0 := by
  have hday : (ofCivil y m d h mi 0).dayNumber = daysFromCivil y m d := by
    simp only [ofCivil, dayNumber]
    omega
  have hsec : (ofCivil y m d h mi 0).secondOfDay = h * 3600 + mi * 60 := by
    simp only [ofCivil, secondOfDay]
    omega
  refine ⟨by rw [date, hday, civilFromDays_daysFromCivil hm1 hm hd1 hd], ?_, ?_, ?_⟩ <;>
    simp only [hour, minute, second, hsec] <;> omega

/-- A year from 0 to 9999 is written in four digits. -/
theorem yearText_of_bounds {y : Int} (h0 : 0 ≤ y) (h1 : y ≤ 9999) :
    yearText y = Text.padded 4 y :=
  if_pos ⟨h0, h1⟩

/-- The days of the years 0 to 9999 run from 0000-01-01 to 9999-12-31. -/
theorem dayNumber_bounds_of_year {t : Moment} (h0 : 0 ≤ t.date.1) (h1 : t.date.1 ≤ 9999) :
    -719528 ≤ t.dayNumber ∧ t.dayNumber ≤ 2932896 := by
  obtain ⟨hm1, hm, hd1, hd⟩ := civilFromDays_valid t.dayNumber
  have h0' : 0 ≤ (civilFromDays t.dayNumber).1 := h0
  have hb := daysFromCivil_bounds h0' h1 hm1 hm hd1 (Nat.le_trans hd (daysInMonth_le _ _))
  rwa [daysFromCivil_civilFromDays] at hb

/-! ### Moments written and read back -/

/-- A moment on the minute of the years 0 to 9999 reads back from its twelve-digit text. -/
theorem parseStamp_stamp {t : Moment} (h0 : 0 ≤ t.date.1) (h1 : t.date.1 ≤ 9999)
    (hs : t.second = 0) : parseStamp t.stamp = some t := by
  obtain ⟨hm1, hm, hd1, hd⟩ := civilFromDays_valid t.dayNumber
  have hz := daysFromCivil_civilFromDays t.dayNumber
  -- the civil date, with a year of four digits
  obtain ⟨⟨y, m, d⟩, hdate⟩ : ∃ p, civilFromDays t.dayNumber = p := ⟨_, rfl⟩
  have hdate' : t.date = (y, m, d) := hdate
  simp only [hdate] at hm1 hm hd1 hd hz
  rw [hdate'] at h0 h1
  obtain ⟨n, rfl⟩ : ∃ n : Nat, y = n := ⟨y.toNat, by omega⟩
  have hhour : t.hour < 24 := by
    simp only [hour, secondOfDay]
    omega
  have hmin : t.minute < 60 := by
    simp only [minute]
    omega
  have hstamp : t.stamp = Text.padded 4 n ++ two m ++ two d ++ two t.hour ++ two t.minute := by
    simp only [stamp, ymdh, hdate', yearText_of_bounds h0 h1]
  have hM : (two t.minute).toList.length = 2 :=
    Text.length_padded (Text.length_toDigits_le (by decide) (show t.minute < 100 by omega))
  rw [hstamp, parseStamp_written_tail (by omega) hm1 hm hd1 hd hhour (.inr hM)
    (fun _ hc => Text.isDigit_of_mem_padded hc) (digitsValue_padded 2 _) hmin]
  -- the day count, the hour and the minute make up the seconds of a moment on the minute
  simp only [ofCivil, hz, Option.some.injEq]
  cases t
  simp only [hour, minute, second, secondOfDay, dayNumber, Moment.mk.injEq] at hs ⊢
  omega

/-- A moment on the hour of the years 0 to 9999 reads back from its ten-digit text. -/
theorem parseStamp_ymdh_of_year {t : Moment} (h0 : 0 ≤ t.date.1) (h1 : t.date.1 ≤ 9999)
    (hmin : t.minute = 0) (hs : t.second = 0) : parseStamp t.ymdh = some t := by
  obtain ⟨hb0, hb1⟩ := dayNumber_bounds_of_year h0 h1
  have hh : t.seconds % 3600 = 0 := by
    simp only [minute, second, secondOfDay] at hmin hs
    omega
  exact parseStamp_ymdh hh hb0 hb1

/-- A field of a run of digits, read and written back at its width, is the field itself. -/
theorem padded_field {cs : List Char} (hd : ∀ c ∈ cs, c.isDigit = true) {k w : Nat}
    (hk : k + w ≤ cs.length) (hw : 0 < w) :
    (Text.padded w (digitsValue ((cs.drop k).take w))).toList = (cs.drop k).take w := by
  have hl : ((cs.drop k).take w).length = w := by
    simp only [List.length_take, List.length_drop]
    omega
  have hf := padded_digitsValue (fun c hc => hd c (List.mem_of_mem_drop (List.mem_of_mem_take hc)))
    (show 0 < ((cs.drop k).take w).length by omega)
  rwa [hl] at hf

/-- The year field of a run of digits, read and written back as a year, is the field itself:
four digits are a year from 0 to 9999. -/
theorem yearText_field {cs : List Char} (hd : ∀ c ∈ cs, c.isDigit = true) (hlen : 4 ≤ cs.length) :
    (yearText (digitsValue (cs.take 4))).toList = cs.take 4 := by
  have hy4 : (cs.take 4).length = 4 := by
    simp only [List.length_take]
    omega
  have hy : digitsValue (cs.take 4) < Nat.pow 10 (cs.take 4).length :=
    digitsValue_lt fun c hc => hd c (List.mem_of_mem_take hc)
  rw [hy4] at hy
  replace hy : digitsValue (cs.take 4) < 10000 := hy
  have hyear := padded_field hd (show 0 + 4 ≤ cs.length by omega) (by decide)
  rw [yearText_of_bounds (Int.natCast_nonneg _) (by omega)]
  simpa only [List.drop_zero] using hyear

/-- A text read as a timestamp is, once trimmed, the text of the moment read: its twelve-digit
text when it has twelve characters, its ten-digit text when it has ten. -/
theorem trimChars_eq_of_parseStamp {s : String} {t : Moment} (h : parseStamp s = some t) :
    ((Text.trimChars s.toList).length = 12 → t.stamp.toList = Text.trimChars s.toList) ∧
    ((Text.trimChars s.toList).length = 10 → t.ymdh.toList = Text.trimChars s.toList) := by
  unfold parseStamp at h
  generalize Text.trimChars s.toList = cs at h ⊢
  dsimp only at h
  split at h
  · next hc =>
    have hdig : ∀ c ∈ cs, c.isDigit = true := List.all_eq_true.mp hc.2
    have hlen : 10 ≤ cs.length := by omega
    split at h
    · next hv =>
      obtain ⟨hm1, hm, hd1, hd, hh, hmi⟩ := hv
      obtain rfl := Option.some.inj h
      obtain ⟨hdate, hhour, hminute, -⟩ := ofCivil_fields hm1 hm hd1 hd hh hmi
      -- the first ten characters are the date and hour as written
      have hymdh : (ofCivil (digitsValue (cs.take 4)) (digitsValue ((cs.drop 4).take 2))
          (digitsValue ((cs.drop 6).take 2)) (digitsValue ((cs.drop 8).take 2))
          (digitsValue ((cs.drop 10).take 2)) 0).ymdh.toList = cs.take 10 := by
        rw [ymdh, hdate, hhour]
        dsimp only
        simp only [two, String.toList_append, yearText_field hdig (by omega),
          padded_field hdig (show 4 + 2 ≤ cs.length by omega) (by decide),
          padded_field hdig (show 6 + 2 ≤ cs.length by omega) (by decide),
          padded_field hdig (show 8 + 2 ≤ cs.length by omega) (by decide)]
        exact take_ten_fields cs
      refine ⟨fun h12 => ?_, fun h10 => ?_⟩
      · rw [stamp, String.toList_append, hymdh, hminute, two,
          padded_field hdig (show 10 + 2 ≤ cs.length by omega) (by decide), ← List.take_add,
          List.take_of_length_le (by omega)]
      · rw [hymdh, List.take_of_length_le (by omega)]
    · cases h
  · cases h

/-- Writing and reading timestamps are inverse over the years 0 to 9999. A moment on the minute
reads back from its twelve-digit text, and a moment on the hour also from its ten-digit text; a
text read as a timestamp is, once trimmed, the twelve-digit text of the moment read when it has
twelve characters, and its ten-digit text when it has ten. -/
theorem stamp_texts_round_trip :
    (∀ t : Moment, 0 ≤ t.date.1 → t.date.1 ≤ 9999 → t.second = 0 →
      parseStamp t.stamp = some t ∧ (t.minute = 0 → parseStamp t.ymdh = some t)) ∧
    ∀ (s : String) (t : Moment), parseStamp s = some t →
      ((Text.trim s).length = 12 → t.stamp = Text.trim s) ∧
      ((Text.trim s).length = 10 → t.ymdh = Text.trim s) := by
  refine ⟨fun t h0 h1 hs => ⟨parseStamp_stamp h0 h1 hs,
    fun hmin => parseStamp_ymdh_of_year h0 h1 hmin hs⟩, fun s t h => ?_⟩
  obtain ⟨h12, h10⟩ := trimChars_eq_of_parseStamp h
  have hlen : (Text.trim s).length = (Text.trimChars s.toList).length := by
    rw [Text.trim, String.length_ofList]
  refine ⟨fun hl => ?_, fun hl => ?_⟩
  · rw [Text.trim, ← h12 (hlen ▸ hl), String.ofList_toList]
  · rw [Text.trim, ← h10 (hlen ▸ hl), String.ofList_toList]

/-- The leap day of 2000 at 18:30 reads back from its text, and a padded text of it reads as the
moment whose text it is once trimmed. -/
theorem leapDay_stamp_reads_back :
    (0 ≤ (ofCivil 2000 2 29 18 30 0).date.1 ∧ (ofCivil 2000 2 29 18 30 0).date.1 ≤ 9999 ∧
      (ofCivil 2000 2 29 18 30 0).second = 0) ∧
    parseStamp (ofCivil 2000 2 29 18 30 0).stamp = some (ofCivil 2000 2 29 18 30 0) ∧
    parseStamp " 200002291830\n" = some (ofCivil 2000 2 29 18 30 0) ∧
    (ofCivil 2000 2 29 18 30 0).stamp = Text.trim " 200002291830\n" := by
  have h0 : 0 ≤ (ofCivil 2000 2 29 18 30 0).date.1 := by decide
  have h1 : (ofCivil 2000 2 29 18 30 0).date.1 ≤ 9999 := by decide
  have hs : (ofCivil 2000 2 29 18 30 0).second = 0 := by decide
  have hp : parseStamp " 200002291830\n" = some (ofCivil 2000 2 29 18 30 0) := by decide
  have hl : (Text.trim " 200002291830\n").length = 12 := by decide
  exact ⟨⟨h0, h1, hs⟩, (stamp_texts_round_trip.1 _ h0 h1 hs).1, hp,
    (stamp_texts_round_trip.2 _ _ hp).1 hl⟩

end Moment

end CycledWorkflow
