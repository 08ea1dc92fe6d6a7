/-!
# Path templates

Texts with placeholders: `${NAME}`, where the name is an ASCII letter or underscore
followed by ASCII letters, digits and underscores. Placeholders are found from left to
right, each one after the end of the last; a `$` without a well-formed placeholder after it
is plain text.

The cycle fields `PDY`, `HH`, `CDATE`, `YYYY`, `MM` and `DD` are filled in for every cycle;
other placeholders must be bound elsewhere.
-/

namespace CycledWorkflow.Template

/-- The placeholders filled in from the cycle itself. -/
def cycleFields : List String := ["PDY", "HH", "CDATE", "YYYY", "MM", "DD"]

/-- Whether a character may start a placeholder name. -/
def isNameStart (c : Char) : Bool := c.isAlpha || c = '_'

/-- Whether a character may continue a placeholder name. -/
def isNameChar (c : Char) : Bool := c.isAlphanum || c = '_'

/-- Dropping a prefix never lengthens a list. -/
theorem length_dropWhile_le (p : Char → Bool) : ∀ l : List Char, (l.dropWhile p).length ≤ l.length
  | [] => Nat.le_refl _
  | a :: l => by
    rw [List.dropWhile]
    cases p a
    · exact Nat.le_refl _
    · exact Nat.le_succ_of_le (length_dropWhile_le p l)

/-- The placeholder name at the front of a sequence (after `${`), closed by `}`, and the
rest after the brace. -/
def nameAtFront (cs : List Char) :
    Option (List Char × { r : List Char // r.length < cs.length }) :=
  match cs with
  | c :: more =>
    if isNameStart c then
      match h : (c :: more).dropWhile isNameChar with
      | '}' :: rest =>
        some ((c :: more).takeWhile isNameChar, ⟨rest, by
          have := length_dropWhile_le isNameChar (c :: more)
          rw [h] at this
          simp only [List.length_cons] at this ⊢
          omega⟩)
      | _ => none
    else none
  | [] => none

/-- The placeholder names of a character sequence, from left to right. -/
def scan : List Char → List String
  | [] => []
  | '$' :: '{' :: rest =>
    match nameAtFront rest with
    | some (name, ⟨after, _⟩) => String.ofList name :: scan after
    | none => scan ('{' :: rest)
  | _ :: rest => scan rest
termination_by cs => cs.length

/-- The placeholder names of a template, from left to right, repeats kept. -/
def placeholders (t : String) : List String := scan t.toList

/-- The template of a file under the run's atmosphere directory of the cycle. -/
def rotdirPath (run rest : String) : String :=
  "${ROTDIR}/" ++ run ++ ".${PDY}/${HH}/atmos/" ++ rest

/-- The template of a run's own file of the cycle, `run.tHHz.file`. -/
def rotdirFile (run file : String) : String :=
  rotdirPath run (run ++ ".t${HH}z." ++ file)

end CycledWorkflow.Template
