/-!
# Blanks

White space in the Unicode sense (the `White_Space` property), and trimming it from both
ends of a text. Configuration values are compared after trimming, so a value written as
`" YES "` or `"2021122018\n"` reads like its bare form.

Every character that core counts as white space is blank (`isBlank_of_isWhitespace`).
-/

namespace CycledWorkflow.Text

/-- A character is blank when it has the Unicode `White_Space` property: the ASCII tab, line
feed, vertical tab, form feed, carriage return and space, the next line control, the
no-break spaces, the Ogham space mark, the typographic spaces, and the line and paragraph
separators. -/
def isBlank (c : Char) : Bool :=
  let n := c.toNat
  (0x9 ≤ n && n ≤ 0xD) || n == 0x20 || n == 0x85 || n == 0xA0 || n == 0x1680 ||
    (0x2000 ≤ n && n ≤ 0x200A) || n == 0x2028 || n == 0x2029 || n == 0x202F ||
    n == 0x205F || n == 0x3000

/-- The characters of a text without its leading and trailing blanks. -/
def trimChars (cs : List Char) : List Char :=
  ((cs.dropWhile isBlank).reverse.dropWhile isBlank).reverse

/-- A text without its leading and trailing blanks. -/
def trim (s : String) : String :=
  String.ofList (trimChars s.toList)

/-- Every character that core counts as white space is blank. -/
theorem isBlank_of_isWhitespace (c : Char) (h : c.isWhitespace = true) : isBlank c = true := by
  simp only [Char.isWhitespace, Bool.or_eq_true, decide_eq_true_eq] at h
  simp only [isBlank, Bool.or_eq_true, Bool.and_eq_true, beq_iff_eq, decide_eq_true_eq]
  rcases h with ((h | h) | h) | h <;> subst h <;> simp

/-- Trimming a list that neither starts nor ends with a blank changes nothing. -/
theorem trimChars_eq_self_of_ends (cs : List Char)
    (hhead : ∀ c ∈ cs.head?, isBlank c = false)
    (hlast : ∀ c ∈ cs.getLast?, isBlank c = false) : trimChars cs = cs := by
  cases cs with
  | nil => rfl
  | cons a rest =>
    have ha : isBlank a = false := hhead a rfl
    have hdrop : (a :: rest).dropWhile isBlank = a :: rest := by simp [ha]
    cases hr : (a :: rest).reverse with
    | nil => simp at hr
    | cons z zs =>
      have hz : isBlank z = false := by
        apply hlast
        rw [List.getLast?_eq_head?_reverse, hr]
        rfl
      rw [trimChars, hdrop, hr, List.dropWhile_cons_of_neg (by simp [hz]), ← hr,
        List.reverse_reverse]

end CycledWorkflow.Text
