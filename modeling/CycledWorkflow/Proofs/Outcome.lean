import CycledWorkflow.Error
/-!
# Successful computations

Facts about computations that may stop with an error and did not: a successful bind is two
successful steps, and a successful traversal relates every input to its output. The catalog
build and the calendar layout are inverted through them.

Facts about the errors a computation can stop with are stated with `Avoids`: a bind avoids
an error when both its steps do.

Main statements: `exists_input_of_mapM_ok`, `exists_output_of_mapM_ok` and `avoids_bind`.
-/

namespace CycledWorkflow

section Success

variable {ε α β : Type} {f : α → Except ε β}

/-- Every output of a successful traversal is the output of one of its inputs. -/
theorem exists_input_of_mapM_ok :
    ∀ {l : List α} {r : List β}, l.mapM f = .ok r → ∀ b ∈ r, ∃ a ∈ l, f a = .ok b
  | [], r, h, b, hb => by
    cases h
    simp at hb
  | a :: l, r, h, b, hb => by
    rw [List.mapM_cons] at h
    cases hfa : f a with
    | error e => simp [hfa, bind, Except.bind] at h
    | ok b₀ =>
      cases hl : l.mapM f with
      | error e => simp [hfa, hl, bind, Except.bind] at h
      | ok r₀ =>
        simp only [hfa, hl, bind, Except.bind, pure, Except.pure, Except.ok.injEq] at h
        subst h
        rcases List.mem_cons.mp hb with rfl | hb
        · exact ⟨a, List.mem_cons_self, hfa⟩
        · obtain ⟨a', ha', hfa'⟩ := exists_input_of_mapM_ok hl b hb
          exact ⟨a', List.mem_cons_of_mem a ha', hfa'⟩

/-- Every input of a successful traversal has its output among the outputs. -/
theorem exists_output_of_mapM_ok :
    ∀ {l : List α} {r : List β}, l.mapM f = .ok r → ∀ a ∈ l, ∃ b ∈ r, f a = .ok b
  | [], _, _, a, ha => by simp at ha
  | a :: l, r, h, a', ha' => by
    rw [List.mapM_cons] at h
    cases hfa : f a with
    | error e => simp [hfa, bind, Except.bind] at h
    | ok b₀ =>
      cases hl : l.mapM f with
      | error e => simp [hfa, hl, bind, Except.bind] at h
      | ok r₀ =>
        simp only [hfa, hl, bind, Except.bind, pure, Except.pure, Except.ok.injEq] at h
        subst h
        rcases List.mem_cons.mp ha' with rfl | ha'
        · exact ⟨b₀, List.mem_cons_self, hfa⟩
        · obtain ⟨b, hb, hfb⟩ := exists_output_of_mapM_ok hl a' ha'
          exact ⟨b, List.mem_cons_of_mem b₀ hb, hfb⟩

/-- A bind succeeds exactly when its first step does and the rest turns that result into the
value. -/
theorem bind_eq_ok_iff {x : Except ε α} {g : α → Except ε β} {b : β} :
    x >>= g = .ok b ↔ ∃ a, x = .ok a ∧ g a = .ok b := by
  cases x <;> simp [bind, Except.bind]

/-- A mapped computation succeeds exactly when the computation does, with the image. -/
theorem map_eq_ok_iff {x : Except ε α} {g : α → β} {b : β} :
    g <$> x = .ok b ↔ ∃ a, x = .ok a ∧ g a = b := by
  cases x <;> simp [Functor.map, Except.map]

/-- A value returned is a success with exactly that value. -/
@[simp] theorem pure_eq_ok_iff {a b : α} : (pure a : Except ε α) = .ok b ↔ a = b := by
  simp [pure, Except.pure]

/-- A thrown error is no success. -/
@[simp] theorem throw_ne_ok {e : ε} {a : α} : (throw e : Except ε α) ≠ .ok a := by
  simp [throw, throwThe, MonadExceptOf.throw]

/-- A successful bind is a successful first step whose result the rest turns into the value. -/
theorem exists_ok_of_bind_ok {x : Except ε α} {g : α → Except ε β} {b : β}
    (h : x >>= g = .ok b) : ∃ a, x = .ok a ∧ g a = .ok b := by
  cases x with
  | error e => cases h
  | ok a => exact ⟨a, rfl, h⟩

end Success

/-! ### Errors a computation cannot stop with -/

section Avoids

variable {ε α β : Type}

/-- A computation that, if it stops with an error, stops with none that `bad` picks out. -/
def Avoids (bad : ε → Prop) (x : Except ε α) : Prop := ∀ err, x = .error err → ¬bad err

variable {bad : ε → Prop}

theorem avoids_ok (a : α) : Avoids bad (.ok a : Except ε α) := by
  rintro _ ⟨⟩

theorem avoids_pure (a : α) : Avoids bad (pure a : Except ε α) := avoids_ok a

theorem avoids_throw {err : ε} (h : ¬bad err) : Avoids bad (throw err : Except ε α) := by
  rintro _ ⟨⟩
  exact h

/-- A bind stops with an error of its first step or of the rest after a successful first
step. -/
theorem avoids_bind {x : Except ε α} {f : α → Except ε β} (hx : Avoids bad x)
    (hf : ∀ a, x = .ok a → Avoids bad (f a)) : Avoids bad (x >>= f) := by
  intro err h
  cases hx' : x with
  | error e =>
    rw [hx'] at h
    obtain rfl : e = err := Except.error.inj h
    exact hx e hx'
  | ok a =>
    rw [hx'] at h
    exact hf a hx' err h

/-- A traversal avoids an error when every step does. -/
theorem avoids_mapM {f : α → Except ε β} :
    ∀ {l : List α}, (∀ a ∈ l, Avoids bad (f a)) → Avoids bad (l.mapM f)
  | [], _ => avoids_pure _
  | a :: l, h => by
    rw [List.mapM_cons]
    exact avoids_bind (h a List.mem_cons_self) fun _ _ =>
      avoids_bind (avoids_mapM fun b hb => h b (List.mem_cons_of_mem a hb)) fun _ _ =>
        avoids_pure _

/-- A bind that stops with an error stops in its first step, or in the rest after a
successful first step. -/
theorem error_of_bind_error {x : Except ε α} {f : α → Except ε β} {err : ε}
    (h : x >>= f = .error err) : x = .error err ∨ ∃ a, x = .ok a ∧ f a = .error err := by
  cases x with
  | error e => exact Or.inl (by rw [Except.error.inj h])
  | ok a => exact Or.inr ⟨a, rfl, h⟩

end Avoids

end CycledWorkflow
