import CycledWorkflow.Proofs.Calendar.Layout
import CycledWorkflow.Proofs.Dependency.Placeholders
/-!
# Configured texts without `$`

A configuration whose texts hold no `$` cannot put a placeholder into a template through a
configured value. Every other value is written with digits, signs, points and letters only, so
reading any value as text then gives a text without `$` (`Value.plain_display`). Deriving a
calendar adds only numbers, timestamps, durations and a group's label, so the derived base
stays free of `$` (`derive_plain`).

Main statements: `Value.plain_display`, `Scope.Plain.stringOr` and `derive_plain`.
-/

namespace CycledWorkflow

open Template (Plain)

theorem Template.plain_ofList {l : List Char} : Plain (String.ofList l) ↔ '$' ∉ l := by
  rw [Plain, String.toList_ofList]

/-! ### Numerals -/

theorem Text.dollar_not_mem_toDigits (n : Nat) : '$' ∉ Nat.toDigits 10 n := fun h => by
  simpa using Nat.isDigit_of_mem_toDigits (by decide) (by decide) h

theorem Text.plain_toString (n : Nat) : Plain (toString n) :=
  Template.plain_ofList.mpr (dollar_not_mem_toDigits n)

theorem Text.plain_padded (w : Nat) (i : Int) : Plain (padded w i) := by
  rw [padded, Template.plain_ofList]
  have := dollar_not_mem_toDigits i.natAbs
  split <;> simp_all [List.mem_replicate]

theorem Span.plain_hms (s : Span) : Plain s.hms := by
  simp only [hms, Template.plain_append, Text.plain_padded, and_true]
  split <;> decide

theorem Moment.plain_ymdh (t : Moment) : Plain t.ymdh := by
  simp only [ymdh, two, yearText, Template.plain_append, Text.plain_padded, and_true]
  split
  · exact Text.plain_padded 4 _
  · simp only [Template.plain_append, Text.plain_padded, and_true]
    split <;> decide

theorem CycleGroup.plain_label (g : CycleGroup) : Plain g.label := by
  cases g <;> decide

theorem Binary64.plain_positionalText (x : Binary64) : Plain x.positionalText := by
  have hdigits : ∀ n, '$' ∉ digitChars n := Text.dollar_not_mem_toDigits
  unfold positionalText
  split
  · decide
  · split <;> decide
  · dsimp only
    split
    · simp only [Template.plain_append]
      split <;> decide
    · simp only [Template.plain_append]
      refine ⟨by split <;> decide, ?_⟩
      unfold Decimal.positional
      dsimp only
      split
      · simp [Template.plain_append, Template.plain_ofList, List.mem_replicate, hdigits]
      · split
        · simp only [Template.plain_ofList, List.mem_append, List.mem_cons, not_or]
          exact ⟨fun h => hdigits _ (List.mem_of_mem_take h), by decide,
            fun h => hdigits _ (List.mem_of_mem_drop h)⟩
        · rw [Template.plain_ofList]
          simp [List.mem_replicate, hdigits]

/-! ### Values and scopes -/

namespace Config

/-- A value free of `$`: a text without it, or any value that is not a text. -/
def Value.Plain : Value → Prop
  | .text s => Template.Plain s
  | _ => True

instance : DecidablePred Value.Plain := fun v =>
  match v with
  | .text s => inferInstanceAs (Decidable (Template.Plain s))
  | .bool _ | .int _ | .float _ => isTrue trivial

/-- Any value free of `$` reads as a text without `$`. -/
theorem Value.plain_display {v : Value} (h : v.Plain) : Template.Plain v.display := by
  cases v with
  | bool b => cases b <;> decide
  | int i =>
    simp only [display]
    split
    · exact Template.plain_append.mpr ⟨by decide, Text.plain_toString _⟩
    · exact Text.plain_toString _
  | float x => exact Binary64.plain_positionalText x
  | text s => exact h

/-- A scope none of whose values holds a `$`. -/
def Scope.Plain (s : Scope) : Prop := ∀ x ∈ s.entries, x.2.Plain

instance : DecidablePred Scope.Plain := fun s =>
  List.decidableBAll (fun x : String × Value => x.2.Plain) s.entries

namespace Scope

theorem Plain.insert {s : Scope} (hs : s.Plain) {k : String} {v : Value} (hv : v.Plain) :
    (s.insert k v).Plain := fun x hx => by
  rcases mem_insertEntry hx with rfl | hx
  · exact hv
  · exact hs x hx

theorem Plain.extend {s : Scope} (hs : s.Plain) {es : List (String × Value)}
    (hes : ∀ x ∈ es, x.2.Plain) : (s.extend es).Plain := by
  induction es generalizing s with
  | nil => exact hs
  | cons e es ih =>
    exact ih (hs.insert (hes e List.mem_cons_self)) fun x hx => hes x (List.mem_cons_of_mem e hx)

/-- A key of a scope free of `$` reads as a text without `$`. -/
theorem Plain.string? {s : Scope} (hs : s.Plain) {k t : String} (h : s.string? k = some t) :
    Template.Plain t := by
  obtain ⟨v, hv, rfl⟩ := Option.map_eq_some_iff.mp h
  obtain ⟨l₁, l₂, he, -⟩ := List.lookup_eq_some_iff.mp hv
  exact Value.plain_display (hs (k, v) (by rw [he]; simp))

theorem Plain.stringOr {s : Scope} (hs : s.Plain) (k : String) {d : String}
    (hd : Template.Plain d) : Template.Plain (s.stringOr k d) := by
  unfold Scope.stringOr
  cases h : s.string? k with
  | none => exact hd
  | some t => exact hs.string? h

end Scope

end Config

/-! ### The derived base -/

section Loop

variable {ε α β : Type}

/-- A property that every successful pass through a loop body keeps holds of the loop's
result. -/
theorem forIn_invariant (P : β → Prop) {f : α → β → Except ε (ForInStep β)}
    (hf : ∀ a b r, P b → f a b = .ok r → P r.value) :
    ∀ (l : List α) {init out : β}, P init → forIn l init f = .ok out → P out
  | [], _, _, hi, h => by
    simp only [List.forIn_nil, pure, Except.pure, Except.ok.injEq] at h
    exact h ▸ hi
  | a :: l, init, out, hi, h => by
    rw [List.forIn_cons] at h
    obtain ⟨r, hr, h⟩ := exists_ok_of_bind_ok h
    have hp := hf a init r hi hr
    cases r with
    | done b => exact (Except.ok.inj h) ▸ hp
    | yield b => exact forIn_invariant P hf l hp h

end Loop

namespace Calendar

/-- The keys derived from a secondary cadence hold numbers, a duration and timestamps. -/
theorem secondaryEntries_plain {base : Config.Scope} {r : Secondary}
    {out : List (String × Config.Value)} (h : secondaryEntries base r = .ok out) :
    ∀ x ∈ out, x.2.Plain := by
  unfold secondaryEntries at h
  dsimp only at h
  have hhms := Span.plain_hms r.cadence.interval
  split at h
  all_goals
    obtain ⟨fallback, -, h⟩ := exists_ok_of_bind_ok h
    simp only [bind_pure] at h
    -- each pass of the loop appends an integer
    refine forIn_invariant (fun out : List (String × Config.Value) => ∀ x ∈ out, x.2.Plain)
      ?_ _ ?_ h
    · intro hh b step hb hstep
      obtain ⟨v, -, hstep⟩ := exists_ok_of_bind_ok hstep
      obtain rfl := Except.ok.inj hstep
      intro x hx
      rcases List.mem_append.mp hx with hx | hx
      · exact hb x hx
      · simp only [List.mem_singleton] at hx
        subst hx
        trivial
    · simp [Config.Value.Plain, hhms, Moment.plain_ymdh]

/-- The keys a layout derives hold numbers, durations and timestamps. -/
theorem layout_plain {e : Experiment} {cads : List Cadence} {sec : Option Secondary}
    {extra : List (String × Config.Value)} {g : CycleGroup}
    (h : layout e = .ok (cads, sec, extra, g)) : ∀ x ∈ extra, x.2.Plain := by
  by_cases hm : e.mode = .cycled ∨ e.mode = .replay
  · obtain ⟨_, _, -, -, -, hex, -⟩ := layout_cycled_spec hm h
    exact secondaryEntries_plain hex
  · -- the other modes derive their interval, written as a duration
    obtain ⟨interval, rfl⟩ :=
      layout_extra_of_not_cycled (fun h' => hm (.inl h')) (fun h' => hm (.inr h')) h
    simp [Config.Value.Plain, Span.plain_hms]

/-- Deriving a calendar from a base free of `$` keeps it free of `$`. -/
theorem derive_plain {e : Experiment} {cal : Calendar} (he : e.base.Plain)
    (h : derive e = .ok cal) : cal.base.Plain := by
  unfold derive at h
  obtain ⟨⟨cads, sec, extra, g⟩, hl, h⟩ := exists_ok_of_bind_ok h
  obtain rfl := Except.ok.inj h
  refine he.extend fun x hx => ?_
  rcases List.mem_append.mp hx with hx | hx
  · exact layout_plain hl x hx
  · simp only [List.mem_singleton] at hx
    subst hx
    exact CycleGroup.plain_label g

end Calendar

end CycledWorkflow
