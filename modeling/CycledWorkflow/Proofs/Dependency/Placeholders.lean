import CycledWorkflow.Dependency.Template
/-!
# Placeholders of joined texts

Templates are written by joining fixed pieces with configured texts, so their placeholders
are best read piece by piece. Two facts about a piece make that possible. A text without `$`
holds no placeholder and cannot complete one, so it adds nothing to what follows
(`placeholders_plain_append`). A text that does not stop where a placeholder could still be
open (right after `$` or `{`, or inside a name) keeps its placeholders to itself
(`placeholders_append`): as with a longest-match lexer, where a piece ends matters, not only
what it holds.

Main statements: `scan_append` (a text closed at its end scans on its own),
`scan_placeholder` (a name between `${` and `}` is found) and `placeholders_rotdirFile`.
-/

namespace CycledWorkflow.Template

/-! ### Names -/

/-- A placeholder name: a name start followed by name characters. -/
def IsName : List Char → Prop
  | [] => False
  | c :: more => isNameStart c = true ∧ ∀ x ∈ more, isNameChar x = true

-- The name characters are checked along the list, never by ranging over all characters.
instance : DecidablePred IsName := fun n =>
  match n with
  | [] => isFalse id
  | _ :: more =>
    @instDecidableAnd _ _ (instDecidableEqBool _ _)
      (List.decidableBAll (fun x => isNameChar x = true) more)

theorem isNameChar_of_isNameStart {c : Char} (h : isNameStart c = true) :
    isNameChar c = true := by
  simp only [isNameStart, isNameChar, Bool.or_eq_true, decide_eq_true_eq] at h ⊢
  rcases h with h | h
  · exact .inl (by simp [Char.isAlphanum, h])
  · exact .inr h

theorem IsName.isNameChar : ∀ {n : List Char}, IsName n → ∀ x ∈ n, isNameChar x = true
  | c :: _, ⟨hs, hm⟩ => by simpa [isNameChar_of_isNameStart hs] using hm

theorem IsName.ne_nil : ∀ {n : List Char}, IsName n → n ≠ []
  | c :: more, _ => List.cons_ne_nil c more

/-! ### The scanner, one step at a time -/

theorem scan_nil : scan [] = [] := scan.eq_1

theorem scan_cons_of_ne {c : Char} (hc : c ≠ '$') (rest : List Char) :
    scan (c :: rest) = scan rest :=
  scan.eq_3 c rest fun _ h _ => hc h

theorem scan_dollar_of_ne {c : Char} (hc : c ≠ '{') (rest : List Char) :
    scan ('$' :: c :: rest) = scan (c :: rest) :=
  scan.eq_3 '$' (c :: rest) fun _ _ h => hc (List.cons.inj h).1

/-- What a name found after `${` is: a placeholder name closed by `}`. -/
theorem nameAtFront_eq_some {cs n : List Char} {r} (h : nameAtFront cs = some (n, r)) :
    IsName n ∧ cs = n ++ '}' :: r.1 := by
  unfold nameAtFront at h
  split at h
  next c more =>
    split at h
    next hs =>
      split at h
      next rest hd =>
        simp only [Option.some.injEq, Prod.mk.injEq] at h
        obtain ⟨rfl, rfl⟩ := h
        have htake : (c :: more).takeWhile isNameChar = c :: more.takeWhile isNameChar := by
          simp [isNameChar_of_isNameStart hs]
        refine ⟨?_, by rw [← hd, List.takeWhile_append_dropWhile]⟩
        rw [htake]
        exact ⟨hs, fun x hx => List.all_eq_true.1 List.all_takeWhile x hx⟩
      next => cases h
    next => cases h
  next => cases h

/-- A placeholder name closed by `}` is found after `${`, whatever follows the brace. -/
theorem nameAtFront_placeholder {n : List Char} (hn : IsName n) (after : List Char) :
    ∃ h, nameAtFront (n ++ '}' :: after) = some (n, ⟨after, h⟩) := by
  have hall := hn.isNameChar
  cases n with
  | nil => exact hn.elim
  | cons c more =>
    have hd : (c :: more ++ '}' :: after).dropWhile isNameChar = '}' :: after := by
      rw [List.dropWhile_append_of_pos hall]
      rfl
    have ht : (c :: more ++ '}' :: after).takeWhile isNameChar = c :: more := by
      rw [List.takeWhile_append_of_pos hall]
      simp [List.takeWhile_cons]
      rfl
    simp only [List.cons_append] at hd ht
    unfold nameAtFront
    simp only [List.cons_append, hn.1, if_true]
    split
    next rest h =>
      rw [hd, List.cons.injEq] at h
      obtain ⟨-, rfl⟩ := h
      exact ⟨by simp; omega, by rw [ht]⟩
    next h => exact (h after hd).elim

/-- `${`, a name and `}` make a placeholder. -/
theorem scan_placeholder {n : List Char} (hn : IsName n) (after : List Char) :
    scan ('$' :: '{' :: (n ++ '}' :: after)) = String.ofList n :: scan after := by
  obtain ⟨h, he⟩ := nameAtFront_placeholder hn after
  rw [scan.eq_2, he]

/-! ### Working out the placeholders of a written-out template -/

/-- The scanner run for at most `n` steps. Its recursion is on the count, so that the
placeholders of a template written out in full can be worked out by evaluation. -/
def scanFor : Nat → List Char → List String
  | 0, _ => []
  | _ + 1, [] => []
  | n + 1, '$' :: '{' :: rest =>
    match nameAtFront rest with
    | some (name, ⟨after, _⟩) => String.ofList name :: scanFor n after
    | none => scanFor n ('{' :: rest)
  | n + 1, _ :: rest => scanFor n rest

/-- As many steps as characters are enough: every step of the scanner consumes one. -/
theorem scan_eq_scanFor : ∀ (n : Nat) (cs : List Char), cs.length ≤ n → scan cs = scanFor n cs
  | 0, cs, h => by
    rw [List.length_eq_zero_iff.mp (Nat.le_zero.mp h), scan_nil, scanFor.eq_1]
  | n + 1, [], _ => by rw [scan_nil, scanFor.eq_2]
  | n + 1, c :: rest, h => by
    simp only [List.length_cons] at h
    by_cases hb : ∃ r, c = '$' ∧ rest = '{' :: r
    · -- after `${` both read a name, or skip the `$`
      obtain ⟨r, rfl, rfl⟩ := hb
      simp only [List.length_cons] at h
      rw [scan.eq_2, scanFor.eq_3]
      cases hn : nameAtFront r with
      | none => exact scan_eq_scanFor n ('{' :: r) (by simp only [List.length_cons]; omega)
      | some p =>
        obtain ⟨name, after, hlt⟩ := p
        exact congrArg _ (scan_eq_scanFor n after (by omega))
    · have hne : ∀ r, c = '$' → rest = '{' :: r → False :=
        fun r h₁ h₂ => hb ⟨r, h₁, h₂⟩
      rw [scan.eq_3 c rest hne, scanFor.eq_4 n c rest hne]
      exact scan_eq_scanFor n rest (by omega)

theorem placeholders_eq_scanFor (t : String) :
    placeholders t = scanFor t.toList.length t.toList :=
  scan_eq_scanFor _ _ (Nat.le_refl _)

/-! ### Texts without `$` -/

/-- A text without `$` adds no placeholder to what follows it. -/
theorem scan_plain_append {a : List Char} (ha : '$' ∉ a) (b : List Char) :
    scan (a ++ b) = scan b := by
  induction a with
  | nil => rfl
  | cons c a ih =>
    rw [List.mem_cons, not_or] at ha
    rw [List.cons_append, scan_cons_of_ne (Ne.symm ha.1), ih ha.2]

/-! ### Texts that leave no placeholder open -/

/-- Whether a character can end a text with no placeholder left open: it is none of `$`, `{`
and the name characters. -/
def closesText (c : Char) : Bool := c != '$' && c != '{' && !isNameChar c

/-- A text that is empty or ends with a character that leaves no placeholder open. -/
def EndsClosed (cs : List Char) : Prop := cs.getLast?.all closesText = true

instance : DecidablePred EndsClosed := fun cs =>
  inferInstanceAs (Decidable (cs.getLast?.all closesText = true))

theorem EndsClosed.of_append {l m : List Char} (h : EndsClosed (l ++ m)) : EndsClosed m := by
  unfold EndsClosed at h ⊢
  rw [List.getLast?_append] at h
  cases hm : m.getLast? with
  | none => rfl
  | some c => simpa [hm] using h

theorem EndsClosed.getLast {cs : List Char} (h : EndsClosed cs) (hne : cs ≠ []) :
    closesText (cs.getLast hne) = true := by
  unfold EndsClosed at h
  simpa [List.getLast?_eq_some_getLast hne] using h

/-- After `${`, a text closed at its end decides on its own whether a name follows. -/
theorem nameAtFront_append_eq_none {rest : List Char} (h : nameAtFront rest = none)
    (hc : EndsClosed ('$' :: '{' :: rest)) (b : List Char) : nameAtFront (rest ++ b) = none := by
  -- a name found across the end of `rest` would end `rest` inside the name
  have hopen : ∀ n, IsName n → rest ≠ n := by
    rintro n hn rfl
    have hne := hn.ne_nil
    have hlast := hc.of_append (l := ['$', '{']) |>.getLast hne
    have hname := hn.isNameChar _ (List.getLast_mem hne)
    simp [closesText, hname] at hlast
  cases hf : nameAtFront (rest ++ b) with
  | none => rfl
  | some nr =>
    obtain ⟨n, r, hr⟩ := nr
    obtain ⟨hn, hsplit⟩ := nameAtFront_eq_some hf
    rcases List.append_eq_append_iff.mp hsplit with ⟨a', hn', -⟩ | ⟨c', hrest, hb⟩
    · -- `rest` is a prefix of the name: it ends in a name character, or is empty
      cases rest with
      | nil => simp [EndsClosed, closesText] at hc
      | cons x xs =>
        have hxs := IsName.isNameChar hn
        rw [hn'] at hxs
        have hne : x :: xs ≠ [] := List.cons_ne_nil x xs
        have hlast := hc.of_append (l := ['$', '{']) |>.getLast hne
        have hname := hxs _ (List.mem_append_left _ (List.getLast_mem hne))
        simp [closesText, hname] at hlast
    · cases c' with
      | nil => exact (hopen n hn (by simpa using hrest)).elim
      | cons d c'' =>
        obtain ⟨rfl, -⟩ := List.cons.inj hb
        obtain ⟨_, hsome⟩ := nameAtFront_placeholder hn c''
        rw [hrest, hsome] at h
        cases h

/-- A text closed at its end is scanned on its own: its placeholders come first, then those
of whatever follows. -/
theorem scan_append {a : List Char} (ha : EndsClosed a) (b : List Char) :
    scan (a ++ b) = scan a ++ scan b := by
  induction a using scan.induct with
  | case1 => rw [List.nil_append, scan_nil, List.nil_append]
  | case2 rest name after _ hf ih =>
    obtain ⟨hn, hrest⟩ := nameAtFront_eq_some hf
    replace hrest : rest = name ++ '}' :: after := hrest
    subst hrest
    have hafter : EndsClosed after := by
      apply EndsClosed.of_append (l := '$' :: '{' :: name ++ ['}'])
      simpa using ha
    simp only [List.cons_append, List.append_assoc]
    rw [scan_placeholder hn, scan_placeholder hn, ih hafter, List.cons_append]
  | case3 rest hf ih =>
    have hrest : EndsClosed ('{' :: rest) := ha.of_append (l := ['$'])
    rw [List.cons_append, List.cons_append, scan.eq_2, scan.eq_2,
      nameAtFront_append_eq_none hf ha b, hf]
    simpa using ih hrest
  | case4 x rest hx ih =>
    have hrest : EndsClosed rest := ha.of_append (l := [x])
    by_cases hd : x = '$'
    · subst hd
      cases rest with
      | nil => simp [EndsClosed, closesText] at ha
      | cons y r =>
        have hy : y ≠ '{' := fun hy => hx r rfl (by rw [hy])
        rw [List.cons_append, List.cons_append, scan_dollar_of_ne hy, scan_dollar_of_ne hy,
          ← List.cons_append, ih hrest]
    · rw [List.cons_append, scan_cons_of_ne hd, scan_cons_of_ne hd, ih hrest]

/-! ### Templates -/

/-- A text without `$`: it holds no placeholder and completes none. -/
def Plain (s : String) : Prop := '$' ∉ s.toList

instance : DecidablePred Plain := fun s => inferInstanceAs (Decidable ('$' ∉ s.toList))

theorem plain_append {a b : String} : Plain (a ++ b) ↔ Plain a ∧ Plain b := by
  simp [Plain, String.toList_append, not_or]

theorem placeholders_plain_append {a : String} (ha : Plain a) (b : String) :
    placeholders (a ++ b) = placeholders b := by
  rw [placeholders, String.toList_append, scan_plain_append ha]
  rfl

theorem placeholders_of_plain {a : String} (ha : Plain a) : placeholders a = [] := by
  have h := placeholders_plain_append ha ""
  rw [String.append_empty] at h
  rw [h, placeholders, String.toList_empty, scan_nil]

/-- A template closed at its end keeps its placeholders to itself. -/
theorem placeholders_append {a : String} (ha : EndsClosed a.toList) (b : String) :
    placeholders (a ++ b) = placeholders a ++ placeholders b := by
  rw [placeholders, String.toList_append, scan_append ha]
  rfl

/-- A file under a run's directory of the cycle names the directory root, the date and the
hour, then whatever its name holds. -/
theorem placeholders_rotdirPath {run : String} (hrun : Plain run) (rest : String) :
    placeholders (rotdirPath run rest) = ["ROTDIR", "PDY", "HH"] ++ placeholders rest := by
  have hroot : placeholders "${ROTDIR}/" = ["ROTDIR"] := by
    rw [placeholders_eq_scanFor]; decide
  have hcycle : placeholders ".${PDY}/${HH}/atmos/" = ["PDY", "HH"] := by
    rw [placeholders_eq_scanFor]; decide
  rw [rotdirPath, String.append_assoc, String.append_assoc, placeholders_append (by decide),
    placeholders_plain_append hrun, placeholders_append (by decide), hroot, hcycle]
  rfl

/-- A run's own file of the cycle names the hour once more. -/
theorem placeholders_rotdirFile {run : String} (hrun : Plain run) (file : String) :
    placeholders (rotdirFile run file) = ["ROTDIR", "PDY", "HH", "HH"] ++ placeholders file := by
  have hhour : placeholders ".t${HH}z." = ["HH"] := by rw [placeholders_eq_scanFor]; decide
  rw [rotdirFile, placeholders_rotdirPath hrun, String.append_assoc,
    placeholders_plain_append hrun, placeholders_append (by decide), hhour]
  rfl

end CycledWorkflow.Template
