import CycledWorkflow.Toml.Tree
/-!
# TOML bare scalars

The values that TOML writes without quotes or brackets: booleans, integers, floats and
date-times. Each is a run of letters, digits and `_ + - . :` (a date and a time may also be
joined by a space, which the reader turns into `T`).

* An integer is decimal with an optional sign and no leading zero, or `0x`, `0o`, `0b`
  followed by digits of that radix; underscores stand only between digits. Its value must
  fit a signed or an unsigned 128-bit word; whether it fits a 64-bit one is asked only
  where it is used.
* A float is a decimal integer part followed by a fraction, an exponent or both, rounded to
  the nearest binary64 number; a result too large for the format is refused. `inf` and
  `nan` may carry a sign.
* A date-time is a date `YYYY-MM-DD` (a real day of the Gregorian calendar), a time
  `HH:MM` with optional seconds `:SS` and, after seconds, an optional fraction, or a date
  and a time joined by `T`, the latter optionally followed by `Z` or an offset `±HH:MM`.
-/

namespace CycledWorkflow.Toml

/-- Whether a character may be part of a bare scalar. -/
def isScalarChar (c : Char) : Bool :=
  c.isAlphanum || c == '_' || c == '+' || c == '-' || c == '.' || c == ':'

/-- The value of a digit in a radix up to sixteen. -/
def digitIn (radix : Nat) (c : Char) : Option Nat :=
  let v : Option Nat :=
    if c.isDigit then some (c.toNat - '0'.toNat)
    else if 'a' ≤ c ∧ c ≤ 'f' then some (c.toNat - 'a'.toNat + 10)
    else if 'A' ≤ c ∧ c ≤ 'F' then some (c.toNat - 'A'.toNat + 10)
    else none
  v.bind fun d => if d < radix then some d else none

/-- Digits of a radix with underscores only between two digits: the value and the number of
digits. -/
def digitRun (radix : Nat) (cs : List Char) : Option (Nat × Nat) :=
  match cs.head?, cs.getLast? with
  | some a, some b =>
    if (digitIn radix a).isNone || (digitIn radix b).isNone then none
    else go cs 0 0 false
  | _, _ => none
where
  /-- Reading on, after `afterUnderscore` tells whether the previous character was `_`. -/
  go : List Char → Nat → Nat → Bool → Option (Nat × Nat)
    | [], v, n, _ => some (v, n)
    | '_' :: rest, v, n, false => go rest v n true
    | '_' :: _, _, _, true => none
    | c :: rest, v, n, _ =>
      match digitIn radix c with
      | some d => go rest (v * radix + d) (n + 1) false
      | none => none

/-- An optional sign and the rest. -/
def splitSign : List Char → Bool × List Char
  | '-' :: rest => (true, rest)
  | '+' :: rest => (false, rest)
  | rest => (false, rest)

/-- An unsigned decimal integer: `0`, or digits without a leading zero. -/
def unsignedDecimal (cs : List Char) : Option (Nat × Nat) :=
  match cs with
  | ['0'] => some (0, 1)
  | '0' :: _ => none
  | _ => digitRun 10 cs

/-- The least signed 128-bit value. -/
def wideMin : Int := -170141183460469231731687303715884105728

/-- The greatest unsigned 128-bit value. -/
def wideMax : Int := 340282366920938463463374607431768211455

/-- The value of an integer in a radix, when it fits a signed or an unsigned 128-bit
word. -/
def integer (cs : List Char) : Option Int :=
  let fits := fun (i : Int) => if wideMin ≤ i ∧ i ≤ wideMax then some i else none
  match cs with
  | '0' :: 'x' :: rest => (digitRun 16 rest).bind fun (v, _) => fits v
  | '0' :: 'o' :: rest => (digitRun 8 rest).bind fun (v, _) => fits v
  | '0' :: 'b' :: rest => (digitRun 2 rest).bind fun (v, _) => fits v
  | _ =>
    let (negative, body) := splitSign cs
    (unsignedDecimal body).bind fun (v, _) => fits (if negative then -(v : Int) else v)

/-- The parts of a float: the integer part, the fraction, the exponent, each as written. -/
def floatParts (cs : List Char) : List Char × Option (List Char) × Option (List Char) :=
  let intPart := cs.takeWhile fun c => c != '.' && c != 'e' && c != 'E'
  let rest := cs.drop intPart.length
  match rest with
  | '.' :: more =>
    let frac := more.takeWhile fun c => c != 'e' && c != 'E'
    match more.drop frac.length with
    | _ :: e => (intPart, some frac, some e)
    | [] => (intPart, some frac, none)
  | _ :: e => (intPart, none, some e)
  | [] => (intPart, none, none)

/-- A float with a fraction or an exponent, rounded to the nearest binary64 number; a result
too large for the format is refused. -/
def float (cs : List Char) : Option Binary64 :=
  let (negative, body) := splitSign cs
  let (intPart, frac, exp) := floatParts body
  if frac.isNone && exp.isNone then none else do
  let (whole, _) ← unsignedDecimal intPart
  let (fracValue, fracDigits) ← match frac with
    | some f => digitRun 10 f
    | none => some (0, 0)
  let power : Int ← match exp with
    | some e =>
      let (expNegative, expDigits) := splitSign e
      (digitRun 10 expDigits).map fun (v, _) => if expNegative then -(v : Int) else v
    | none => some 0
  let x := Binary64.ofDecimal negative (whole * Nat.pow 10 fracDigits + fracValue) (power - fracDigits)
  if x.isInfinite then none else some x

/-- Whether characters are exactly `n` ASCII digits. -/
def allDigits (n : Nat) (cs : List Char) : Bool := cs.length == n && cs.all Char.isDigit

/-- The value of ASCII digits. -/
def digitsValue (cs : List Char) : Nat := cs.foldl (fun v c => v * 10 + (c.toNat - '0'.toNat)) 0

/-- The number of days of a month of the Gregorian calendar. -/
def monthDays (year month : Nat) : Nat :=
  if month = 2 then
    if year % 4 = 0 ∧ (year % 100 ≠ 0 ∨ year % 400 = 0) then 29 else 28
  else if month = 4 ∨ month = 6 ∨ month = 9 ∨ month = 11 then 30
  else 31

/-- Whether characters are a date `YYYY-MM-DD` of a real day. -/
def isDate (cs : List Char) : Bool :=
  match cs with
  | [y1, y2, y3, y4, '-', m1, m2, '-', d1, d2] =>
    allDigits 4 [y1, y2, y3, y4] && allDigits 2 [m1, m2] && allDigits 2 [d1, d2] &&
      let month := digitsValue [m1, m2]
      let day := digitsValue [d1, d2]
      1 ≤ month && month ≤ 12 && 1 ≤ day && day ≤ monthDays (digitsValue [y1, y2, y3, y4]) month
  | _ => false

/-- Whether characters are seconds `:SS` with an optional fraction, or nothing. -/
def isSeconds (cs : List Char) : Bool :=
  match cs with
  | [] => true
  | ':' :: s1 :: s2 :: frac =>
    allDigits 2 [s1, s2] && digitsValue [s1, s2] ≤ 60 &&
      match frac with
      | [] => true
      | '.' :: ds => !ds.isEmpty && ds.all Char.isDigit
      | _ => false
  | _ => false

/-- Whether characters are a time `HH:MM`, with optional seconds. -/
def isTime (cs : List Char) : Bool :=
  match cs with
  | h1 :: h2 :: ':' :: m1 :: m2 :: rest =>
    allDigits 2 [h1, h2] && allDigits 2 [m1, m2] &&
      digitsValue [h1, h2] ≤ 23 && digitsValue [m1, m2] ≤ 59 && isSeconds rest
  | _ => false

/-- Whether characters are a time zone offset: `Z` or `±HH:MM`. -/
def isOffset (cs : List Char) : Bool :=
  match cs with
  | ['Z'] | ['z'] => true
  | [s, h1, h2, ':', m1, m2] =>
    (s == '+' || s == '-') && allDigits 2 [h1, h2] && allDigits 2 [m1, m2] &&
      digitsValue [h1, h2] ≤ 23 && digitsValue [m1, m2] ≤ 59
  | _ => false

/-- Whether characters are a time with an optional offset. -/
def isTimeWithOffset (cs : List Char) : Bool :=
  let body := cs.takeWhile fun c => c.isDigit || c == ':' || c == '.'
  isTime body && (body.length == cs.length || isOffset (cs.drop body.length))

/-- Whether characters are a date-time, a date or a time. -/
def isDatetime (cs : List Char) : Bool :=
  isDate cs || isTime cs ||
    (isDate (cs.take 10) &&
      match cs.drop 10 with
      | d :: rest => (d == 'T' || d == 't') && isTimeWithOffset rest
      | [] => false)

/-- The value of a bare scalar. -/
def scalar (cs : List Char) : Option Value :=
  match cs with
  | ['t', 'r', 'u', 'e'] => some (.boolean true)
  | ['f', 'a', 'l', 's', 'e'] => some (.boolean false)
  | ['i', 'n', 'f'] | ['+', 'i', 'n', 'f'] => some (.float (.infinite false))
  | ['-', 'i', 'n', 'f'] => some (.float (.infinite true))
  | ['n', 'a', 'n'] | ['+', 'n', 'a', 'n'] | ['-', 'n', 'a', 'n'] => some (.float .nan)
  | _ =>
    if isDatetime cs then some (.datetime (String.ofList cs))
    else
      match cs with
      | '0' :: 'x' :: _ | '0' :: 'o' :: _ | '0' :: 'b' :: _ => (integer cs).map .integer
      | _ =>
        if cs.any (fun c => c == '.' || c == 'e' || c == 'E') then
          (float cs).map .float
        else (integer cs).map .integer

end CycledWorkflow.Toml
