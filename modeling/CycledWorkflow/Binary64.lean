/-!
# Binary64 numbers

The IEEE 754 double-precision format as a value type: a finite number is a sign, an 11-bit
biased exponent below 2047 and a 52-bit fraction; besides them there are two infinities and
a NaN. The exact value of a finite number is `significand · 2 ^ binaryExponent`.

Every arithmetic result here is the exact rational result rounded once to the nearest
representable number, a tie going to the even significand (`ofRatio`). Products and
quotients of two numbers are defined that way, so they are the correctly rounded operations
of the format.
-/

namespace CycledWorkflow

/-- A binary64 floating-point number. -/
inductive Binary64 where
  /-- A finite number: its sign, biased exponent (`0` for zero and subnormals) and fraction
  (below `2 ^ 52`). -/
  | finite (negative : Bool) (exponent : Nat) (fraction : Nat)
  /-- An infinity of the given sign. -/
  | infinite (negative : Bool)
  /-- Not a number. -/
  | nan
  deriving DecidableEq, Repr

namespace Binary64

/-- Positive zero. -/
def zero : Binary64 := .finite false 0 0

/-- The full significand of a finite number: the fraction with the hidden bit of a normal
number. -/
def significand (exponent fraction : Nat) : Nat :=
  if exponent = 0 then fraction else Nat.pow 2 52 + fraction

/-- The weight of the last significand bit of a finite number. -/
def binaryExponent (exponent : Nat) : Int :=
  (max exponent 1 : Nat) - 1075

/-- A nonnegative rational `num / den` scaled by `2 ^ (-q)`, as a new numerator and
denominator. -/
def scaleRatio (num den : Nat) (q : Int) : Nat × Nat :=
  if 0 ≤ q then (num, den * Nat.pow 2 q.toNat) else (num * Nat.pow 2 (-q).toNat, den)

/-- The quotient `a / d` rounded to the nearest whole number, a tie going to the even one. -/
def roundHalfEven (a d : Nat) : Nat :=
  let t := a / d
  let r := a % d
  if d < 2 * r then t + 1
  else if 2 * r < d then t
  else t + t % 2

/-- Whether the rational `num / den` is at least `2 ^ b`. -/
def atLeastPow2 (num den : Nat) (b : Int) : Bool :=
  if 0 ≤ b then decide (den * Nat.pow 2 b.toNat ≤ num) else decide (den ≤ num * Nat.pow 2 (-b).toNat)

/-- The number nearest to `num / den` with the given sign, a tie going to the even
significand; magnitudes that round past the largest finite number become infinite. -/
def ofRatio (negative : Bool) (num den : Nat) : Binary64 :=
  if num = 0 ∨ den = 0 then .finite negative 0 0
  else
    let b : Int := (Nat.log2 num : Int) - (Nat.log2 den : Int)
    let e2 : Int := if atLeastPow2 num den b then b else b - 1
    let q0 : Int := max (e2 - 52) (-1074)
    let scaled := scaleRatio num den q0
    let m0 := roundHalfEven scaled.1 scaled.2
    let (m, q) := if m0 = Nat.pow 2 53 then (Nat.pow 2 52, q0 + 1) else (m0, q0)
    if m < Nat.pow 2 52 then .finite negative 0 m
    else if 2046 < q + 1075 then .infinite negative
    else .finite negative (q + 1075).toNat (m - Nat.pow 2 52)

/-- The exact magnitude of a finite number as a numerator and denominator. -/
def ratio (exponent fraction : Nat) : Nat × Nat :=
  let m := significand exponent fraction
  let q := binaryExponent exponent
  if 0 ≤ q then (m * Nat.pow 2 q.toNat, 1) else (m, Nat.pow 2 (-q).toNat)

/-- The number nearest to a natural number. -/
def ofNat (n : Nat) : Binary64 := ofRatio false n 1

/-- The same number with the opposite sign. -/
def neg : Binary64 → Binary64
  | .finite s e f => .finite (!s) e f
  | .infinite s => .infinite (!s)
  | .nan => .nan

/-- Whether a number is infinite. -/
def isInfinite : Binary64 → Bool
  | .infinite _ => true
  | _ => false

/-- Whether a number is a zero of either sign. -/
def isZero : Binary64 → Bool
  | .finite _ e f => e == 0 && f == 0
  | _ => false

/-- The correctly rounded product of two numbers. -/
def mul : Binary64 → Binary64 → Binary64
  | .nan, _ | _, .nan => .nan
  | .finite s e f, .finite t e' f' =>
    let x := ratio e f
    let y := ratio e' f'
    ofRatio (s != t) (x.1 * y.1) (x.2 * y.2)
  | .infinite s, .finite t e f | .finite t e f, .infinite s =>
    if e = 0 ∧ f = 0 then .nan else .infinite (s != t)
  | .infinite s, .infinite t => .infinite (s != t)

/-- The correctly rounded quotient of two numbers. -/
def div : Binary64 → Binary64 → Binary64
  | .nan, _ | _, .nan => .nan
  | .finite s e f, .finite t e' f' =>
    let x := ratio e f
    let y := ratio e' f'
    if e' = 0 ∧ f' = 0 then
      (if e = 0 ∧ f = 0 then .nan else .infinite (s != t))
    else ofRatio (s != t) (x.1 * y.2) (x.2 * y.1)
  | .infinite s, .finite t _ _ => .infinite (s != t)
  | .finite s _ _, .infinite t => .finite (s != t) 0 0
  | .infinite _, .infinite _ => .nan

/-- The number of decimal digits of a positive natural number. -/
def decimalLength (n : Nat) : Nat := (Nat.toDigits 10 n).length

/-- The number nearest to `digits · 10 ^ exp10` with the given sign. Magnitudes far outside
the finite range are settled before any power is formed: one at or above `10 ^ 310` is
infinite, one below `10 ^ (-324)` (under half the least subnormal) is zero. -/
def ofDecimal (negative : Bool) (digits : Nat) (exp10 : Int) : Binary64 :=
  if digits = 0 then .finite negative 0 0
  else
    let top : Int := decimalLength digits + exp10
    if 310 < top then .infinite negative
    else if top < -324 then .finite negative 0 0
    else if 0 ≤ exp10 then ofRatio negative (digits * Nat.pow 10 exp10.toNat) 1
    else ofRatio negative digits (Nat.pow 10 (-exp10).toNat)

end Binary64

end CycledWorkflow
