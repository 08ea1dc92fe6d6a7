import CycledWorkflow.Text.Blank
import CycledWorkflow.Text.Numeral
/-!
# Spans

A span is a signed length of time in whole seconds, bounded so that its count of
milliseconds fits a signed 64-bit word: at most `9223372036854775` seconds either way. Days
and hours convert to spans only within that bound, and sums are checked against it.

Spans are written `[-]HH:MM:SS`, the hours at least two digits and unbounded, and read from
`[-][D:]H:MM:SS` (a day field and any number of hour digits; minutes and seconds two digits
each and below sixty; the text is trimmed first).
-/

namespace CycledWorkflow

/-- The greatest number of seconds in a span. -/
def Span.limit : Nat := 9223372036854775

/-- A signed length of time in whole seconds, within `Span.limit` either way. -/
structure Span where
  /-- The length in seconds. -/
  seconds : Int
  /-- The length is within the bound. -/
  bounded : seconds.natAbs ≤ Span.limit := by decide

namespace Span

instance : DecidableEq Span := fun a b =>
  if h : a.seconds = b.seconds then
    isTrue (by cases a; cases b; simp at h; subst h; rfl)
  else isFalse (fun e => h (by rw [e]))

instance : Repr Span := ⟨fun s _ => repr s.seconds⟩

/-- The span of no time. -/
def zero : Span := ⟨0, by decide⟩

/-- The span of a number of seconds, when it is within the bound. -/
def ofSeconds? (s : Int) : Option Span :=
  if h : s.natAbs ≤ limit then some ⟨s, h⟩ else none

/-- The span of a number of days, when it is within the bound. -/
def ofDays? (d : Int) : Option Span := ofSeconds? (d * 86400)

/-- The span of a number of hours, when it is within the bound. -/
def ofHours? (h : Int) : Option Span := ofSeconds? (h * 3600)

/-- The span of the same length in the other direction. -/
def neg (s : Span) : Span := ⟨-s.seconds, by rw [Int.natAbs_neg]; exact s.bounded⟩

/-- The sum of two spans, when it is within the bound. -/
def add? (a b : Span) : Option Span := ofSeconds? (a.seconds + b.seconds)

/-- One day. -/
def day : Span := ⟨86400, by decide⟩

/-- Half a day. -/
def halfDay : Span := ⟨43200, by decide⟩

/-- Six hours, the step of the main cycle. -/
def sixHours : Span := ⟨21600, by decide⟩

/-- Six hours back, the offset of the previous cycle. -/
def previousCycle : Span := ⟨-21600, by decide⟩

/-- Whether a span is empty. -/
def isZero (s : Span) : Bool := s.seconds == 0

/-- The written form `[-]HH:MM:SS`: a minus sign for a negative span, then the hours of the
magnitude with at least two digits, its minutes and its seconds with two. -/
def hms (s : Span) : String :=
  let total := s.seconds.natAbs
  let sign := if s.seconds < 0 then "-" else ""
  sign ++ Text.padded 2 (total / 3600) ++ ":" ++ Text.padded 2 (total % 3600 / 60) ++ ":" ++
    Text.padded 2 (total % 60)

/-- A field of ASCII digits, read as a signed 64-bit value. -/
def digitField? (cs : List Char) : Option Int :=
  if cs.all Char.isDigit then
    match Text.readNatural cs with
    | some n => if (n : Int) ≤ Text.wordMax then some n else none
    | none => none
  else none

/-- Whether a field is exactly two ASCII digits. -/
def twoDigits (cs : List Char) : Bool := cs.length == 2 && cs.all Char.isDigit

/-- The magnitude of the fields `D`, `H`, `MM`, `SS`, each checked against the bounds in turn:
the days as a span, the hours as a span, then the sums. -/
def fieldsSpan? (days hours minutes seconds : Int) : Option Span :=
  if 59 < minutes ∨ 59 < seconds then none
  else do
    let d ← ofDays? days
    let h ← ofHours? hours
    let dh ← d.add? h
    let m ← ofSeconds? (minutes * 60)
    let dhm ← dh.add? m
    let s ← ofSeconds? seconds
    dhm.add? s

/-- The magnitude of the colon-separated fields of an offset, `H`, `MM`, `SS` or `D`, `H`, `MM`,
`SS`: minutes and seconds two ASCII digits each, days and hours non-empty runs of them. -/
def fieldsMagnitude? : List (List Char) → Option Span
  | [h, m, s] =>
    if twoDigits m && twoDigits s then do
      let hv ← digitField? h
      let mv ← digitField? m
      let sv ← digitField? s
      if h.isEmpty then none else fieldsSpan? 0 hv mv sv
    else none
  | [d, h, m, s] =>
    if twoDigits m && twoDigits s && !d.isEmpty && !h.isEmpty then do
      let dv ← digitField? d
      let hv ← digitField? h
      let mv ← digitField? m
      let sv ← digitField? s
      fieldsSpan? dv hv mv sv
    else none
  | _ => none

/-- The span of a trimmed offset text: the magnitude of the fields after a minus sign,
negated, or of the fields alone. -/
def signedMagnitude? : List Char → Option Span
  | '-' :: rest => (fieldsMagnitude? (rest.splitOn ':')).map neg
  | body => fieldsMagnitude? (body.splitOn ':')

/-- Reading `[-][D:]H:MM:SS` after trimming. -/
def parseOffset (text : String) : Option Span := signedMagnitude? (Text.trimChars text.toList)

end Span

end CycledWorkflow
