import CycledWorkflow.Proofs.Time.Stamp
/-!
# Written offsets read back

An offset is read from a trimmed text `[-][D:]H:MM:SS`: a minus sign, a day field, both
optional, then the hour, minute and second fields, all separated by colons. The reader splits
the text at its colons, reads each field as a 64-bit value of ASCII digits, and adds days,
hours, minutes and seconds with a check against the bound of a span at every step.

`Span.Written` names the fields of such a text. Reading accepts exactly the texts of
well-formed fields (the day and hour fields runs of ASCII digits, the minutes and seconds two
ASCII digits each, at most 59) whose sum is within the bound, and it reads their sum with the
sign (`parseOffset_eq_some_iff`). The checked additions fail exactly when the sum does not fit,
because every partial sum of non-negative fields lies below the whole (`fieldsSpan?_eq_some_iff`).
No bound is put on the hour field, with a day field or without one: `1:30:00:00` reads as
fifty-four hours (`parseOffset_day_thirty_hours`).

A span is written in its canonical form: no day field, the hours in at least two digits with
no leading zero beyond two, the minutes and seconds in two, and a minus sign only before a
negative span. Every span has exactly one canonical text, and that text reads back as the span
(`hms_canonical_reads_back`).

Main statements: `parseOffset_eq_some_iff` and `hms_canonical_reads_back`.
-/

namespace CycledWorkflow

/-! ### Digit fields -/

/-- Reading digits from a value so far folds them in, when they are all digits. -/
theorem Text.readDigitsFrom_eq (acc : Nat) (cs : List Char) :
    Text.readDigitsFrom acc cs =
      if cs.all Char.isDigit then some (cs.foldl (fun a c => a * 10 + (c.toNat - '0'.toNat)) acc)
      else none := by
  induction cs generalizing acc with
  | nil => rfl
  | cons c cs ih =>
    by_cases hc : c.isDigit = true
    · simp [Text.readDigitsFrom, Text.digitValue?, hc, ih]
    · simp [Text.readDigitsFrom, Text.digitValue?, hc]

/-- A natural number is read from a non-empty run of ASCII digits, as their value. -/
theorem Text.readNatural_eq_some_iff {cs : List Char} {n : Nat} :
    Text.readNatural cs = some n ↔
      cs ≠ [] ∧ (∀ c ∈ cs, c.isDigit = true) ∧ Moment.digitsValue cs = n := by
  cases cs with
  | nil => simp [Text.readNatural]
  | cons c cs =>
    show Text.readDigitsFrom 0 (c :: cs) = some n ↔ _
    rw [Text.readDigitsFrom_eq]
    by_cases h : (c :: cs).all Char.isDigit = true
    · rw [if_pos h]
      exact ⟨fun e => ⟨List.cons_ne_nil c cs, List.all_eq_true.mp h, Option.some.inj e⟩,
        fun ⟨_, _, e⟩ => congrArg some e⟩
    · rw [if_neg h]
      exact ⟨fun e => absurd e (by simp),
        fun ⟨_, hd, _⟩ => absurd (List.all_eq_true.mpr hd) h⟩

namespace Span

open Moment (digitsValue)

/-- A field is read as a 64-bit value exactly when it is a non-empty run of ASCII digits whose
value fits the word. -/
theorem digitField?_eq_some_iff {cs : List Char} {v : Int} :
    digitField? cs = some v ↔ cs ≠ [] ∧ (∀ c ∈ cs, c.isDigit = true) ∧
      (digitsValue cs : Int) ≤ Text.wordMax ∧ v = digitsValue cs := by
  unfold digitField?
  by_cases h : cs.all Char.isDigit = true
  · rw [if_pos h]
    cases hr : Text.readNatural cs with
    | none =>
      -- digits that read as nothing are no digits at all
      refine ⟨fun e => absurd e (by simp), fun ⟨hne, hd, _⟩ => ?_⟩
      rw [Text.readNatural_eq_some_iff.mpr ⟨hne, hd, rfl⟩] at hr
      cases hr
    | some n =>
      obtain ⟨hne, hd, rfl⟩ := Text.readNatural_eq_some_iff.mp hr
      dsimp only
      by_cases hw : (digitsValue cs : Int) ≤ Text.wordMax
      · rw [if_pos hw, Option.some.injEq]
        exact ⟨fun e => ⟨hne, hd, hw, e.symm⟩, fun ⟨_, _, _, e⟩ => e.symm⟩
      · rw [if_neg hw]
        exact ⟨fun e => absurd e (by simp), fun ⟨_, _, hw', _⟩ => absurd hw' hw⟩
  · rw [if_neg h]
    exact ⟨fun e => absurd e (by simp),
      fun ⟨_, hd, _⟩ => absurd (List.all_eq_true.mpr hd) h⟩

theorem twoDigits_iff {cs : List Char} :
    twoDigits cs = true ↔ cs.length = 2 ∧ ∀ c ∈ cs, c.isDigit = true := by
  simp [twoDigits, List.all_eq_true]

/-! ### Checked sums -/

/-- Spans of the same length are the same span. -/
theorem ext_seconds {a b : Span} (h : a.seconds = b.seconds) : a = b := by
  cases a; cases b; simp only at h; subst h; rfl

@[simp] theorem seconds_neg (d : Span) : d.neg.seconds = -d.seconds := rfl

@[simp] theorem neg_neg_eq (d : Span) : d.neg.neg = d := ext_seconds (by simp)

theorem ofSeconds?_eq_some_iff {x : Int} {s : Span} :
    ofSeconds? x = some s ↔ x.natAbs ≤ limit ∧ s.seconds = x := by
  unfold ofSeconds?
  split
  · next h =>
    constructor
    · intro e
      exact ⟨h, by rw [← Option.some.inj e]⟩
    · rintro ⟨-, e⟩
      exact congrArg some (ext_seconds e.symm)
  · next h =>
    constructor
    · intro e
      cases e
    · rintro ⟨h', -⟩
      exact absurd h' h

/-- Days, hours, minutes and seconds add up to a span exactly when the minutes and seconds are
at most 59 and their sum is within the bound: each checked step adds non-negative parts, so
it fails only when the whole sum would. -/
theorem fieldsSpan?_eq_some_iff {dd hh mm ss : Nat} {m : Span} :
    fieldsSpan? dd hh mm ss = some m ↔ mm ≤ 59 ∧ ss ≤ 59 ∧
      86400 * dd + 3600 * hh + 60 * mm + ss ≤ limit ∧
      m.seconds = ((86400 * dd + 3600 * hh + 60 * mm + ss : Nat) : Int) := by
  unfold fieldsSpan?
  split
  · next h => exact ⟨fun e => absurd e (by simp), fun ⟨h1, h2, _⟩ => by omega⟩
  · next h =>
    simp only [bind, Option.bind_eq_some_iff, ofDays?, ofHours?, add?, ofSeconds?_eq_some_iff]
    constructor
    · rintro ⟨d, ⟨hd, hd'⟩, h, ⟨hh', hh''⟩, dh, ⟨hdh, hdh'⟩, mi, ⟨hm, hm'⟩, dhm, ⟨hdhm, hdhm'⟩,
        s, ⟨hs, hs'⟩, hfin, hfin'⟩
      simp only [limit] at *
      omega
    · rintro ⟨-, -, hfit, hm⟩
      -- every partial sum lies between zero and the whole sum
      have hpart : ∀ x : Int, 0 ≤ x →
          x ≤ ((86400 * dd + 3600 * hh + 60 * mm + ss : Nat) : Int) → x.natAbs ≤ limit := by
        intro x h0 h1
        omega
      have b1 := hpart (dd * 86400) (by omega) (by omega)
      have b2 := hpart (hh * 3600) (by omega) (by omega)
      have b3 := hpart (dd * 86400 + hh * 3600) (by omega) (by omega)
      have b4 := hpart (mm * 60) (by omega) (by omega)
      have b5 := hpart (dd * 86400 + hh * 3600 + mm * 60) (by omega) (by omega)
      have b6 := hpart ss (by omega) (by omega)
      have b7 := hpart (dd * 86400 + hh * 3600 + mm * 60 + ss) (by omega) (by omega)
      exact ⟨⟨_, b1⟩, ⟨b1, rfl⟩, ⟨_, b2⟩, ⟨b2, rfl⟩, ⟨_, b3⟩, ⟨b3, rfl⟩, ⟨_, b4⟩, ⟨b4, rfl⟩,
        ⟨_, b5⟩, ⟨b5, rfl⟩, ⟨_, b6⟩, ⟨b6, rfl⟩, b7, by rw [hm]; dsimp only; omega⟩

/-- A count within the bound of a span fits the 64-bit word. -/
theorem natCast_le_wordMax {n : Nat} (h : n ≤ limit) : (n : Int) ≤ Text.wordMax := by
  simp only [limit] at h
  simp only [Text.wordMax]
  omega

/-! ### Written fields -/

/-- The fields of a span as written: a sign, an optional day field, and the hour, minute and
second fields. -/
structure Written where
  /-- Whether a minus sign leads. -/
  negative : Bool
  /-- The day field, when there is one. -/
  days : Option (List Char)
  /-- The hour field. -/
  hours : List Char
  /-- The minute field. -/
  minutes : List Char
  /-- The second field. -/
  seconds : List Char

/-- A non-empty run of ASCII digits. -/
def IsDigits (cs : List Char) : Prop := cs ≠ [] ∧ ∀ c ∈ cs, c.isDigit = true

/-- Two ASCII digits worth at most 59, as the minutes and the seconds of a clock are. -/
def IsSexagesimal (cs : List Char) : Prop :=
  cs.length = 2 ∧ (∀ c ∈ cs, c.isDigit = true) ∧ digitsValue cs ≤ 59

theorem isDigits_iff (cs : List Char) :
    IsDigits cs ↔ cs ≠ [] ∧ cs.all Char.isDigit = true := by
  simp [IsDigits, List.all_eq_true]

-- The digits are checked along the list, never by ranging over all characters.
instance (cs : List Char) : Decidable (IsDigits cs) := decidable_of_iff _ (isDigits_iff cs).symm

theorem isSexagesimal_iff (cs : List Char) :
    IsSexagesimal cs ↔ cs.length = 2 ∧ cs.all Char.isDigit = true ∧ digitsValue cs ≤ 59 := by
  simp [IsSexagesimal, List.all_eq_true]

instance (cs : List Char) : Decidable (IsSexagesimal cs) :=
  decidable_of_iff _ (isSexagesimal_iff cs).symm

namespace Written

/-- The fields in the order they are written: the day field when there is one, then the hours,
the minutes and the seconds. -/
def fields (w : Written) : List (List Char) := w.days.toList ++ [w.hours, w.minutes, w.seconds]

/-- The text `[-][D:]H:MM:SS`: a minus sign when the span is negative, then the fields joined by
colons. -/
def text (w : Written) : List Char :=
  (if w.negative then ['-'] else []) ++ [':'].intercalate w.fields

/-- The day and hour fields are runs of ASCII digits; the minutes and seconds two digits each,
at most 59. -/
structure WellFormed (w : Written) : Prop where
  days : ∀ d ∈ w.days, IsDigits d
  hours : IsDigits w.hours
  minutes : IsSexagesimal w.minutes
  seconds : IsSexagesimal w.seconds

theorem wellFormed_iff (w : Written) : w.WellFormed ↔
    (w.days.all fun d => decide (IsDigits d)) = true ∧ IsDigits w.hours ∧
      IsSexagesimal w.minutes ∧ IsSexagesimal w.seconds := by
  constructor
  · intro h
    refine ⟨?_, h.2, h.3, h.4⟩
    cases hd : w.days with
    | none => rfl
    | some d => simpa using h.1 d hd
  · rintro ⟨hd, hh, hm, hs⟩
    refine ⟨fun d hdm => ?_, hh, hm, hs⟩
    rw [Option.mem_def] at hdm
    simpa [hdm] using hd

instance (w : Written) : Decidable w.WellFormed := decidable_of_iff _ (wellFormed_iff w).symm

/-- The days, none without a day field. -/
def dayCount (w : Written) : Nat := (w.days.map digitsValue).getD 0

/-- The seconds the fields add up to. -/
def magnitude (w : Written) : Nat :=
  86400 * w.dayCount + 3600 * digitsValue w.hours + 60 * digitsValue w.minutes +
    digitsValue w.seconds

/-- The signed length in seconds. -/
def value (w : Written) : Int := if w.negative then -(w.magnitude : Int) else w.magnitude

/-- Without a day field, the fields add up to their hours, minutes and seconds. -/
theorem magnitude_no_days (neg : Bool) (h mi s : List Char) :
    magnitude ⟨neg, none, h, mi, s⟩ =
      3600 * digitsValue h + 60 * digitsValue mi + digitsValue s := by
  simp [magnitude, dayCount]

theorem text_of_negative {w : Written} (h : w.negative = true) :
    w.text = '-' :: [':'].intercalate w.fields := by
  simp [text, h]

theorem text_of_not_negative {w : Written} (h : w.negative = false) :
    w.text = [':'].intercalate w.fields := by
  simp [text, h]

/-- No field of a well-formed written span holds a colon: they are all digits. -/
theorem colon_not_mem_fields {w : Written} (hw : w.WellFormed) : ∀ l ∈ w.fields, ':' ∉ l := by
  have hdig : ∀ l ∈ w.fields, ∀ c ∈ l, c.isDigit = true := by
    intro l hl
    simp only [fields, List.mem_append, Option.mem_toList, List.mem_cons, List.not_mem_nil,
      or_false] at hl
    rcases hl with hl | rfl | rfl | rfl
    · exact (hw.days l hl).2
    · exact hw.hours.2
    · exact hw.minutes.2.1
    · exact hw.seconds.2.1
  intro l hl hc
  exact absurd (hdig l hl ':' hc) (by decide)

/-- The joined fields of a well-formed written span start with a digit. -/
theorem head_intercalate_fields {w : Written} (hw : w.WellFormed) :
    ∃ c rest, [':'].intercalate w.fields = c :: rest ∧ c.isDigit = true := by
  -- the first field is the day field when there is one, else the hour field
  obtain ⟨first, second, others, hfs, hfirst⟩ :
      ∃ first second others, w.fields = first :: second :: others ∧ IsDigits first := by
    cases hd : w.days with
    | none => exact ⟨w.hours, w.minutes, [w.seconds], by simp [fields, hd], hw.hours⟩
    | some d => exact ⟨d, w.hours, [w.minutes, w.seconds], by simp [fields, hd], hw.days d hd⟩
  obtain ⟨c, cs, rfl⟩ := List.exists_cons_of_ne_nil hfirst.1
  exact ⟨c, _, by rw [hfs, List.intercalate_cons_cons]; rfl, hfirst.2 c (by simp)⟩

/-- The joined fields of a well-formed written span split back into the fields. -/
theorem splitOn_intercalate_fields {w : Written} (hw : w.WellFormed) :
    ([':'].intercalate w.fields).splitOn ':' = w.fields :=
  List.splitOn_intercalate ':' (colon_not_mem_fields hw) (by simp [fields])

/-- The text ends with the second field. -/
theorem text_eq_append_seconds (w : Written) :
    ∃ front, w.text = front ++ w.seconds := by
  cases hd : w.days with
  | none =>
    exact ⟨(if w.negative then ['-'] else []) ++ w.hours ++ ':' :: w.minutes ++ [':'],
      by simp [text, fields, hd, List.intercalate]⟩
  | some d =>
    exact ⟨(if w.negative then ['-'] else []) ++ d ++ ':' :: w.hours ++ ':' :: w.minutes ++ [':'],
      by simp [text, fields, hd, List.intercalate]⟩

/-- The text of a well-formed written span has no blank at either end: it starts with a minus
sign or a digit and ends with a digit. -/
theorem trimChars_text {w : Written} (hw : w.WellFormed) : Text.trimChars w.text = w.text := by
  apply Text.trimChars_eq_self_of_ends
  · intro c hc
    cases hneg : w.negative
    · obtain ⟨c', rest, hcs, hdig⟩ := head_intercalate_fields hw
      rw [text_of_not_negative hneg, hcs] at hc
      rw [← Option.some.inj hc]
      exact Text.isBlank_of_isDigit hdig
    · rw [text_of_negative hneg] at hc
      rw [← Option.some.inj hc]
      decide
  · intro c hc
    obtain ⟨front, hfront⟩ := text_eq_append_seconds w
    obtain ⟨x, hx⟩ := Option.isSome_iff_exists.mp
      (List.getLast?_isSome.mpr (List.ne_nil_of_length_pos (by rw [hw.seconds.1]; decide)))
    rw [hfront, List.getLast?_append, hx, Option.some_or] at hc
    rw [← Option.some.inj hc]
    exact Text.isBlank_of_isDigit (hw.seconds.2.1 x (List.mem_of_getLast? hx))

end Written

/-! ### Reading the fields -/

/-- Three fields read as hours, minutes and seconds. -/
theorem fieldsMagnitude?_three {h mi s : List Char} {m : Span} :
    fieldsMagnitude? [h, mi, s] = some m ↔ IsDigits h ∧ IsSexagesimal mi ∧ IsSexagesimal s ∧
      3600 * digitsValue h + 60 * digitsValue mi + digitsValue s ≤ limit ∧
      m.seconds = ((3600 * digitsValue h + 60 * digitsValue mi + digitsValue s : Nat) : Int) := by
  simp only [fieldsMagnitude?]
  split
  · next htwo =>
    rw [Bool.and_eq_true, twoDigits_iff, twoDigits_iff] at htwo
    simp only [bind, Option.bind_eq_some_iff, digitField?_eq_some_iff]
    constructor
    · rintro ⟨hv, ⟨hne, hd, -, rfl⟩, mv, ⟨-, -, -, rfl⟩, sv, ⟨-, -, -, rfl⟩, e⟩
      split at e
      · cases e
      · -- no day field counts as zero days
        obtain ⟨hm59, hs59, hfit, hsec⟩ := (@fieldsSpan?_eq_some_iff 0 _ _ _ m).mp e
        exact ⟨⟨hne, hd⟩, ⟨htwo.1.1, htwo.1.2, hm59⟩, ⟨htwo.2.1, htwo.2.2, hs59⟩,
          by omega, by rw [hsec]; omega⟩
    · rintro ⟨⟨hne, hd⟩, ⟨hml, hmd, hm59⟩, ⟨hsl, hsd, hs59⟩, hfit, hsec⟩
      refine ⟨_, ⟨hne, hd, natCast_le_wordMax (by omega), rfl⟩,
        _, ⟨List.ne_nil_of_length_pos (by omega), hmd, natCast_le_wordMax (by omega), rfl⟩,
        _, ⟨List.ne_nil_of_length_pos (by omega), hsd, natCast_le_wordMax (by omega), rfl⟩, ?_⟩
      rw [if_neg (by simpa using hne)]
      exact (@fieldsSpan?_eq_some_iff 0 _ _ _ m).mpr ⟨hm59, hs59, by omega, by rw [hsec]; omega⟩
  · next htwo =>
    rw [Bool.and_eq_true, twoDigits_iff, twoDigits_iff] at htwo
    exact ⟨fun e => absurd e (by simp), fun ⟨_, ⟨hml, hmd, _⟩, ⟨hsl, hsd, _⟩, _⟩ =>
      absurd ⟨⟨hml, hmd⟩, ⟨hsl, hsd⟩⟩ htwo⟩

/-- Four fields read as days, hours, minutes and seconds. -/
theorem fieldsMagnitude?_four {d h mi s : List Char} {m : Span} :
    fieldsMagnitude? [d, h, mi, s] = some m ↔ IsDigits d ∧ IsDigits h ∧ IsSexagesimal mi ∧
      IsSexagesimal s ∧
      86400 * digitsValue d + 3600 * digitsValue h + 60 * digitsValue mi + digitsValue s ≤
        limit ∧
      m.seconds = ((86400 * digitsValue d + 3600 * digitsValue h + 60 * digitsValue mi +
        digitsValue s : Nat) : Int) := by
  simp only [fieldsMagnitude?]
  split
  · next hcheck =>
    simp only [Bool.and_eq_true, twoDigits_iff, Bool.not_eq_true', List.isEmpty_eq_false_iff]
      at hcheck
    simp only [bind, Option.bind_eq_some_iff, digitField?_eq_some_iff]
    constructor
    · rintro ⟨dv, ⟨hdne, hdd, -, rfl⟩, hv, ⟨hne, hd, -, rfl⟩, mv, ⟨-, -, -, rfl⟩, sv,
        ⟨-, -, -, rfl⟩, e⟩
      obtain ⟨hm59, hs59, hfit, hsec⟩ := fieldsSpan?_eq_some_iff.mp e
      exact ⟨⟨hdne, hdd⟩, ⟨hne, hd⟩, ⟨hcheck.1.1.1.1, hcheck.1.1.1.2, hm59⟩,
        ⟨hcheck.1.1.2.1, hcheck.1.1.2.2, hs59⟩, hfit, hsec⟩
    · rintro ⟨⟨hdne, hdd⟩, ⟨hne, hd⟩, ⟨hml, hmd, hm59⟩, ⟨hsl, hsd, hs59⟩, hfit, hsec⟩
      exact ⟨_, ⟨hdne, hdd, natCast_le_wordMax (by omega), rfl⟩,
        _, ⟨hne, hd, natCast_le_wordMax (by omega), rfl⟩,
        _, ⟨List.ne_nil_of_length_pos (by omega), hmd, natCast_le_wordMax (by omega), rfl⟩,
        _, ⟨List.ne_nil_of_length_pos (by omega), hsd, natCast_le_wordMax (by omega), rfl⟩,
        fieldsSpan?_eq_some_iff.mpr ⟨hm59, hs59, hfit, hsec⟩⟩
  · next hcheck =>
    simp only [Bool.and_eq_true, twoDigits_iff, Bool.not_eq_true', List.isEmpty_eq_false_iff]
      at hcheck
    exact ⟨fun e => absurd e (by simp),
      fun ⟨⟨hdne, _⟩, ⟨hne, _⟩, ⟨hml, hmd, _⟩, ⟨hsl, hsd, _⟩, _⟩ =>
        absurd ⟨⟨⟨⟨hml, hmd⟩, ⟨hsl, hsd⟩⟩, hdne⟩, hne⟩ hcheck⟩

/-- Fields read as a magnitude exactly when they are the well-formed fields of a written span
whose magnitude is in bounds, and the magnitude is theirs. -/
theorem fieldsMagnitude?_eq_some_iff {fs : List (List Char)} {m : Span} :
    fieldsMagnitude? fs = some m ↔ ∃ w : Written, w.fields = fs ∧ w.WellFormed ∧
      w.magnitude ≤ limit ∧ m.seconds = w.magnitude := by
  constructor
  · intro e
    -- only three or four fields are read
    rcases fs with _ | ⟨a, _ | ⟨b, _ | ⟨c, _ | ⟨d, _ | ⟨x, rest⟩⟩⟩⟩⟩
    · cases e
    · cases e
    · cases e
    · obtain ⟨hh, hmi, hs, hfit, hsec⟩ := fieldsMagnitude?_three.mp e
      exact ⟨⟨false, none, a, b, c⟩, rfl, ⟨fun _ h => (by cases h), hh, hmi, hs⟩,
        by rw [Written.magnitude_no_days]; exact hfit,
        by rw [Written.magnitude_no_days]; exact hsec⟩
    · obtain ⟨hd, hh, hmi, hs, hfit, hsec⟩ := fieldsMagnitude?_four.mp e
      exact ⟨⟨false, some a, b, c, d⟩, rfl,
        ⟨fun _ h => (by cases h; exact hd), hh, hmi, hs⟩, hfit, hsec⟩
    · cases e
  · rintro ⟨⟨neg, days, h, mi, s⟩, rfl, ⟨hd, hh, hmi, hs⟩, hfit, hsec⟩
    cases days with
    | none =>
      rw [Written.magnitude_no_days] at hfit hsec
      exact fieldsMagnitude?_three.mpr ⟨hh, hmi, hs, hfit, hsec⟩
    | some d => exact fieldsMagnitude?_four.mpr ⟨hd d rfl, hh, hmi, hs, hfit, hsec⟩

/-- A body reads as a magnitude exactly when it is the joined fields of a well-formed written
span in bounds. -/
theorem fieldsMagnitude?_splitOn_eq_some_iff {body : List Char} {m : Span} :
    fieldsMagnitude? (body.splitOn ':') = some m ↔ ∃ w : Written,
      [':'].intercalate w.fields = body ∧ w.WellFormed ∧ w.magnitude ≤ limit ∧
        m.seconds = w.magnitude := by
  rw [fieldsMagnitude?_eq_some_iff]
  constructor
  · rintro ⟨w, hf, hw, hfit, hm⟩
    exact ⟨w, by rw [hf, List.intercalate_splitOn], hw, hfit, hm⟩
  · rintro ⟨w, rfl, hw, hfit, hm⟩
    exact ⟨w, (Written.splitOn_intercalate_fields hw).symm, hw, hfit, hm⟩

/-- A body with no leading minus sign reads as an offset exactly when it is the text of a
well-formed written span in bounds. -/
theorem fieldsMagnitude?_unsigned {body : List Char} (hb : ∀ rest, body ≠ '-' :: rest)
    {d : Span} :
    fieldsMagnitude? (body.splitOn ':') = some d ↔
      ∃ w : Written, body = w.text ∧ w.WellFormed ∧ w.magnitude ≤ limit ∧ d.seconds = w.value := by
  rw [fieldsMagnitude?_splitOn_eq_some_iff]
  constructor
  · rintro ⟨w, rfl, hw, hfit, hd⟩
    exact ⟨{ w with negative := false }, rfl, ⟨hw.1, hw.2, hw.3, hw.4⟩, hfit, hd⟩
  · rintro ⟨w, rfl, hw, hfit, hd⟩
    cases hneg : w.negative
    · exact ⟨w, (Written.text_of_not_negative hneg).symm, hw, hfit, by
        simpa [Written.value, hneg] using hd⟩
    · exact absurd (Written.text_of_negative hneg) (hb _)

/-- A body behind a minus sign reads as a negative offset exactly when the whole is the text of a
well-formed written span in bounds. -/
theorem fieldsMagnitude?_negative {rest : List Char} {d : Span} :
    (fieldsMagnitude? (rest.splitOn ':')).map neg = some d ↔
      ∃ w : Written, '-' :: rest = w.text ∧ w.WellFormed ∧ w.magnitude ≤ limit ∧
        d.seconds = w.value := by
  rw [Option.map_eq_some_iff]
  constructor
  · rintro ⟨m, hm, rfl⟩
    obtain ⟨w, rfl, hw, hfit, hmw⟩ := fieldsMagnitude?_splitOn_eq_some_iff.mp hm
    exact ⟨{ w with negative := true }, rfl, ⟨hw.1, hw.2, hw.3, hw.4⟩, hfit,
      by simp [Written.value, hmw]; rfl⟩
  · rintro ⟨w, hwt, hw, hfit, hd⟩
    cases hneg : w.negative
    · -- unsigned fields start with a digit, not with a minus sign
      obtain ⟨c, cs, hcs, hc⟩ := Written.head_intercalate_fields hw
      rw [Written.text_of_not_negative hneg, hcs, List.cons.injEq] at hwt
      rw [← hwt.1] at hc
      exact absurd hc (by decide)
    · rw [Written.text_of_negative hneg, List.cons.injEq] at hwt
      refine ⟨d.neg, fieldsMagnitude?_splitOn_eq_some_iff.mpr ⟨w, hwt.2.symm, hw, hfit, ?_⟩,
        neg_neg_eq d⟩
      simp [hd, Written.value, hneg]

/-- A trimmed text reads as a span exactly when it is the text of a well-formed written span
whose fields add up to a length in bounds, and the span is the signed sum of the fields. -/
theorem signedMagnitude?_eq_some_iff {cs : List Char} {d : Span} :
    signedMagnitude? cs = some d ↔ ∃ w : Written, cs = w.text ∧ w.WellFormed ∧
      w.magnitude ≤ limit ∧ d.seconds = w.value := by
  -- split on the leading minus sign as the reader does
  rcases cs with _ | ⟨c, rest⟩
  · exact fieldsMagnitude?_unsigned (fun _ h => List.cons_ne_nil _ _ h.symm)
  · by_cases hc : c = '-'
    · subst hc
      exact fieldsMagnitude?_negative
    · rw [signedMagnitude?.eq_2 _ (fun rest h => hc (List.cons.inj h).1)]
      exact fieldsMagnitude?_unsigned (fun rest h => hc (List.cons.inj h).1)

/-- Reading an offset accepts exactly the trimmed texts `[-][D:]H:MM:SS` of well-formed written
spans whose fields add up to a length in bounds: the day and hour fields runs of ASCII digits,
with no bound on the hours, the minutes and seconds two ASCII digits each and at most 59. The
span read is the sum of the fields, negated after a minus sign. -/
theorem parseOffset_eq_some_iff {s : String} {d : Span} :
    parseOffset s = some d ↔ ∃ w : Written, Text.trimChars s.toList = w.text ∧ w.WellFormed ∧
      w.magnitude ≤ limit ∧ d.seconds = w.value :=
  signedMagnitude?_eq_some_iff

/-- A day field does not bound the hour field: `1:30:00:00`, a day and thirty hours, is well
formed and reads as fifty-four hours. -/
theorem parseOffset_day_thirty_hours :
    ∃ w : Written, Text.trimChars "1:30:00:00".toList = w.text ∧ w.WellFormed ∧
      w.days = some ['1'] ∧ digitsValue w.hours = 30 ∧
      ∃ d, parseOffset "1:30:00:00" = some d ∧ d.seconds = 194400 := by
  let w : Written := ⟨false, some ['1'], ['3', '0'], ['0', '0'], ['0', '0']⟩
  have hwf : w.WellFormed := by decide
  have htext : Text.trimChars "1:30:00:00".toList = w.text := by decide
  exact ⟨w, htext, hwf, rfl, rfl, ⟨194400, by decide⟩,
    parseOffset_eq_some_iff.mpr ⟨w, htext, hwf, by decide, by decide⟩, rfl⟩

/-! ### Digit runs told apart by their values -/

/-- An ASCII digit has a code from that of `0` to that of `9`. -/
theorem digit_bounds {c : Char} (h : c.isDigit = true) : 48 ≤ c.toNat ∧ c.toNat ≤ 57 := by
  simp only [Char.isDigit, Bool.and_eq_true, decide_eq_true_eq] at h
  exact ⟨h.1, h.2⟩

/-- Runs of digits of one length with one value are the same run. -/
theorem eq_of_digitsValue_eq {a b : List Char} (ha : ∀ c ∈ a, c.isDigit = true)
    (hb : ∀ c ∈ b, c.isDigit = true) (hl : a.length = b.length)
    (hv : digitsValue a = digitsValue b) : a = b := by
  -- digits are read from the left, so the induction takes off the last digit
  obtain ⟨l, rfl⟩ : ∃ l, a = l.reverse := ⟨a.reverse, (List.reverse_reverse a).symm⟩
  induction l generalizing b with
  | nil => exact (List.eq_nil_of_length_eq_zero (by simpa using hl.symm)).symm
  | cons x l ih =>
    obtain ⟨m, rfl⟩ : ∃ m, b = m.reverse := ⟨b.reverse, (List.reverse_reverse b).symm⟩
    cases m with
    | nil => simp at hl
    | cons y m =>
      simp only [List.reverse_cons, List.mem_append, List.mem_singleton] at ha hb
      simp only [List.reverse_cons, List.length_append, List.length_reverse,
        List.length_singleton, Nat.add_right_cancel_iff] at hl
      rw [List.reverse_cons, List.reverse_cons, Moment.digitsValue_append_digit,
        Moment.digitsValue_append_digit] at hv
      -- the last digits agree, as values below ten, and so do the digits before them
      have hx := digit_bounds (ha x (.inr rfl))
      have hy := digit_bounds (hb y (.inr rfl))
      have hxy : x = y := Char.toNat_inj.mp (by omega)
      have hlm : digitsValue l.reverse = digitsValue m.reverse := by omega
      have hrest : l.reverse = m.reverse :=
        ih (b := m.reverse) (fun c hc => hb c (.inl hc)) (fun c hc => ha c (.inl hc))
          (by simp [hl]) hlm
      rw [List.reverse_cons, List.reverse_cons, hxy, hrest]

/-- A run of digits led by a digit other than `0` is worth at least the power of ten of the
digits after it. -/
theorem pow_le_digitsValue {c : Char} {cs : List Char} (hc : c.isDigit = true) (h0 : c ≠ '0') :
    Nat.pow 10 cs.length ≤ digitsValue (c :: cs) := by
  obtain ⟨l, rfl⟩ : ∃ l, cs = l.reverse := ⟨cs.reverse, (List.reverse_reverse cs).symm⟩
  induction l with
  | nil =>
    have hb := digit_bounds hc
    have hne : c.toNat ≠ 48 := fun h => h0 (Char.toNat_inj.mp h)
    show 1 ≤ 0 * 10 + (c.toNat - 48)
    omega
  | cons x l ih =>
    rw [List.reverse_cons, ← List.cons_append, Moment.digitsValue_append_digit,
      List.length_append, List.length_singleton]
    show Nat.pow 10 l.reverse.length * 10 ≤ _
    omega

/-- The leading digit of a positive number is not zero. -/
theorem head?_toDigits_ne_zero {n : Nat} (hn : 0 < n) : (Nat.toDigits 10 n).head? ≠ some '0' := by
  induction n using Nat.strongRecOn with
  | ind n ih =>
    rw [Nat.toDigits_eq_if (by decide)]
    split
    · next hlt =>
      intro h
      have hc := congrArg Char.toNat (Option.some.inj h)
      rw [Nat.toNat_digitChar_of_lt_ten hlt] at hc
      simp at hc
      omega
    · next hge =>
      -- the leading digit is that of the number less its last digit
      have ih' := ih (n / 10) (by omega) (by omega)
      obtain ⟨c, cs, hcs⟩ := List.exists_cons_of_ne_nil (Nat.toDigits_ne_nil (n := n / 10))
      rw [hcs] at ih' ⊢
      exact ih'

/-- A number is written in at least two digits, with no leading zero beyond two. -/
theorem padded_two_lead (n : Nat) :
    2 ≤ (Text.padded 2 n).toList.length ∧
      ((Text.padded 2 n).toList.length = 2 ∨ (Text.padded 2 n).toList.head? ≠ some '0') := by
  rw [Text.toList_padded]
  by_cases hk : (Nat.toDigits 10 n).length ≤ 2
  · simp only [List.length_append, List.length_replicate]
    omega
  · -- more than two digits: no zeros are put in front, and the number is not zero
    have h0 : 2 - (Nat.toDigits 10 n).length = 0 := by omega
    have hn : 0 < n := by
      rcases Nat.eq_zero_or_pos n with rfl | hn
      · simp [Nat.toDigits_zero] at hk
      · exact hn
    rw [h0, List.replicate_zero, List.nil_append]
    exact ⟨by omega, .inr (head?_toDigits_ne_zero hn)⟩

/-- A run of at least two digits, with no leading zero beyond two, is how its value is
written. -/
theorem eq_padded_digitsValue {cs : List Char} (hd : ∀ c ∈ cs, c.isDigit = true)
    (hlen : 2 ≤ cs.length) (hlead : cs.length = 2 ∨ cs.head? ≠ some '0') :
    cs = (Text.padded 2 (digitsValue cs)).toList := by
  have hlt : digitsValue cs < Nat.pow 10 cs.length := Moment.digitsValue_lt hd
  -- the written value has as many digits as the run
  have hk : (Text.padded 2 (digitsValue cs)).toList.length = cs.length := by
    rw [Text.toList_padded, List.length_append, List.length_replicate]
    rcases hlead with h2 | hhead
    · have : (Nat.toDigits 10 (digitsValue cs)).length ≤ 2 :=
        Text.length_toDigits_le (by decide) (h2 ▸ hlt)
      omega
    · -- a leading digit other than zero makes the value need every digit of the run
      obtain ⟨c, rest, hcs⟩ :=
        List.exists_cons_of_ne_nil (List.ne_nil_of_length_pos (show 0 < cs.length by omega))
      have hc0 : c ≠ '0' := fun h => hhead (by rw [hcs, h]; rfl)
      have hge : Nat.pow 10 rest.length ≤ digitsValue cs :=
        hcs ▸ pow_le_digitsValue (hd c (by rw [hcs]; exact List.mem_cons_self)) hc0
      have hlen' : cs.length = rest.length + 1 := by rw [hcs, List.length_cons]
      have hle : (Nat.toDigits 10 (digitsValue cs)).length ≤ rest.length + 1 :=
        Text.length_toDigits_le (by omega) (hlen' ▸ hlt)
      have hgt : ¬ (Nat.toDigits 10 (digitsValue cs)).length ≤ rest.length := fun h => by
        have hlt' : digitsValue cs < Nat.pow 10 rest.length :=
          (Nat.length_toDigits_le_iff (by decide) (by omega)).mp h
        omega
      omega
  exact eq_of_digitsValue_eq hd (fun _ hc => Text.isDigit_of_mem_padded hc) hk.symm
    (Moment.digitsValue_padded 2 _).symm

/-! ### The canonical written form -/

namespace Written

/-- A canonical written form: well formed, with no day field, the hours in at least two digits
and with no leading zero beyond two, and a minus sign only before a length that is not zero. -/
structure Canonical (w : Written) : Prop where
  wellFormed : w.WellFormed
  noDays : w.days = none
  hoursLength : 2 ≤ w.hours.length
  hoursLead : w.hours.length = 2 ∨ w.hours.head? ≠ some '0'
  signed : w.negative = true → w.magnitude ≠ 0

end Written

/-- The fields of the canonical written form of a span: the hours, minutes and seconds of its
magnitude, each in at least two digits. -/
def hmsFields (d : Span) : Written where
  negative := decide (d.seconds < 0)
  days := none
  hours := (Text.padded 2 (d.seconds.natAbs / 3600 : Nat)).toList
  minutes := (Text.padded 2 (d.seconds.natAbs % 3600 / 60 : Nat)).toList
  seconds := (Text.padded 2 (d.seconds.natAbs % 60 : Nat)).toList

/-- A span is written as the text of its canonical fields. -/
theorem toList_hms (d : Span) : d.hms.toList = (hmsFields d).text := by
  by_cases h : d.seconds < 0 <;>
    simp [hms, h, hmsFields, Written.text, Written.fields, List.intercalate]

/-- A number below sixty is written in two digits worth at most 59. -/
theorem isSexagesimal_padded {n : Nat} (hn : n < 60) :
    IsSexagesimal (Text.padded 2 n).toList :=
  ⟨Text.length_padded (Text.length_toDigits_le (by decide) (by show n < 100; omega)),
    fun _ hc => Text.isDigit_of_mem_padded hc, by rw [Moment.digitsValue_padded]; omega⟩

/-- A number is written as a run of digits. -/
theorem isDigits_padded (n : Nat) : IsDigits (Text.padded 2 n).toList :=
  ⟨List.ne_nil_of_length_pos (Nat.lt_of_lt_of_le (by decide) (padded_two_lead n).1),
    fun _ hc => Text.isDigit_of_mem_padded hc⟩

/-- Hours, minutes and seconds, each written in at least two digits, the minutes and seconds
below sixty, are a canonical written span when a minus sign stands only before a length that is
not zero. -/
theorem canonical_padded {neg : Bool} {h m s : Nat} (hm : m < 60) (hs : s < 60)
    (hsign : neg = true → 3600 * h + 60 * m + s ≠ 0) :
    Written.Canonical ⟨neg, none, (Text.padded 2 h).toList, (Text.padded 2 m).toList,
      (Text.padded 2 s).toList⟩ := by
  have hmag : Written.magnitude ⟨neg, none, (Text.padded 2 h).toList, (Text.padded 2 m).toList,
      (Text.padded 2 s).toList⟩ = 3600 * h + 60 * m + s := by
    rw [Written.magnitude_no_days]
    simp only [Moment.digitsValue_padded]
  -- the fields are named by their written digits, so that no projection is left to unfold
  refine ⟨⟨fun _ hd => (by cases hd), ?_, ?_, ?_⟩, rfl, ?_, ?_, fun hn => hmag ▸ hsign hn⟩
    <;> dsimp only
  · exact isDigits_padded h
  · exact isSexagesimal_padded hm
  · exact isSexagesimal_padded hs
  · exact (padded_two_lead h).1
  · exact (padded_two_lead h).2

/-- The canonical fields of a span add up to its magnitude. -/
theorem hmsFields_magnitude (d : Span) : (hmsFields d).magnitude = d.seconds.natAbs := by
  simp only [Written.magnitude, Written.dayCount, hmsFields, Option.map_none, Option.getD_none,
    Moment.digitsValue_padded]
  omega

/-- The canonical fields of a span carry its sign. -/
theorem hmsFields_value (d : Span) : (hmsFields d).value = d.seconds := by
  simp only [Written.value, hmsFields_magnitude]
  by_cases h : d.seconds < 0
  · simp only [hmsFields, h, decide_true, ↓reduceIte]
    omega
  · simp only [hmsFields, h, decide_false, Bool.false_eq_true, ↓reduceIte]
    omega

/-- The canonical fields of a span are canonical. -/
theorem hmsFields_canonical (d : Span) : (hmsFields d).Canonical :=
  canonical_padded (by omega) (Nat.mod_lt _ (by decide)) (by
    -- a minus sign stands only before a negative span, whose magnitude is not zero
    intro hneg
    simp only [decide_eq_true_eq] at hneg
    omega)

/-- A canonical written span with the value of a span is its canonical fields. -/
theorem Written.Canonical.eq_hmsFields {w : Written} (hw : w.Canonical) {d : Span}
    (hv : w.value = d.seconds) : w = hmsFields d := by
  obtain ⟨⟨hdays, hh, ⟨hml, hmd, hm59⟩, ⟨hsl, hsd, hs59⟩⟩, hnone, hlen, hlead, hsign⟩ :=
    hw
  obtain ⟨neg, days, h, mi, s⟩ := w
  simp only at hnone hlen hlead hml hmd hm59 hsl hsd hs59 hh
  subst hnone
  have hmag := Written.magnitude_no_days neg h mi s
  simp only [Written.value] at hv
  -- the sign and the magnitude are those of the span: a minus sign only before a length that
  -- is not zero
  have hneg : neg = decide (d.seconds < 0) := by
    cases neg
    · simp only [Bool.false_eq_true, ↓reduceIte] at hv
      exact (decide_eq_false (by omega)).symm
    · have hne := hsign rfl
      simp only [↓reduceIte] at hv
      exact (decide_eq_true (by omega)).symm
  have habs : d.seconds.natAbs = 3600 * digitsValue h + 60 * digitsValue mi + digitsValue s := by
    rw [← hmag]
    split at hv <;> omega
  -- then each field is the written form of its share of the magnitude
  simp only [hmsFields, Written.mk.injEq, hneg, true_and]
  refine ⟨?_, ?_, ?_⟩
  · rw [eq_padded_digitsValue hh.2 hlen hlead]
    congr 3
    omega
  · rw [eq_padded_digitsValue hmd (by omega) (.inl hml)]
    congr 3
    omega
  · rw [eq_padded_digitsValue hsd (by omega) (.inl hsl)]
    congr 3
    omega

/-! ### Written spans read back -/

/-- Every span reads back from its written form. -/
theorem parseOffset_hms (d : Span) : parseOffset d.hms = some d := by
  have hwf := (hmsFields_canonical d).wellFormed
  show signedMagnitude? (Text.trimChars d.hms.toList) = some d
  rw [toList_hms, Written.trimChars_text hwf]
  exact signedMagnitude?_eq_some_iff.mpr ⟨hmsFields d, rfl, hwf,
    hmsFields_magnitude d ▸ d.bounded, (hmsFields_value d).symm⟩

/-- A text is a canonical written form of a span: the text of canonical fields whose value is
the span. -/
def CanonicalText (d : Span) (text : String) : Prop :=
  ∃ w : Written, text.toList = w.text ∧ w.Canonical ∧ w.value = d.seconds

/-- The written form of a span is a canonical one. -/
theorem canonicalText_hms (d : Span) : CanonicalText d d.hms :=
  ⟨hmsFields d, toList_hms d, hmsFields_canonical d, hmsFields_value d⟩

/-- A span has one canonical written form. -/
theorem CanonicalText.eq_hms {d : Span} {text : String} (h : CanonicalText d text) :
    text = d.hms := by
  obtain ⟨w, htext, hw, hv⟩ := h
  rw [← String.toList_inj, htext, hw.eq_hmsFields hv, toList_hms]

/-- Written offsets read back. Every span, a whole number of seconds within the bound of a
64-bit count of milliseconds, reads back from its written form. So does every span an offset
text reads as, and its written form is its one canonical written form: no day field, the hours
in at least two digits and with no leading zero beyond two, and a minus sign only before a
negative span. -/
theorem hms_canonical_reads_back :
    (∀ d : Span, parseOffset d.hms = some d) ∧
    ∀ (s : String) (d : Span), parseOffset s = some d →
      CanonicalText d d.hms ∧ (∀ text, CanonicalText d text → text = d.hms) ∧
        parseOffset d.hms = some d :=
  ⟨parseOffset_hms, fun _ d _ => ⟨canonicalText_hms d, fun _ h => h.eq_hms, parseOffset_hms d⟩⟩

/-- A day written with its day field is written back as twenty-four hours, which read back as
the day. -/
theorem day_reads_back_from_hours :
    parseOffset "1:00:00:00" = some day ∧ day.hms = "24:00:00" ∧
      CanonicalText day "24:00:00" ∧ parseOffset "24:00:00" = some day := by
  have hparse : parseOffset "1:00:00:00" = some day := by decide
  have hhms : day.hms = "24:00:00" := by decide
  obtain ⟨hcanon, -, hback⟩ := hms_canonical_reads_back.2 _ _ hparse
  rw [hhms] at hcanon hback
  exact ⟨hparse, hhms, hcanon, hback⟩

end Span

end CycledWorkflow
