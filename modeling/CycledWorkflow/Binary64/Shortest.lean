import CycledWorkflow.Binary64
/-!
# Shortest decimal form

The decimal that a number is written as: the fewest significant digits whose value rounds
back to the number, and of two such decimals the nearer one (a tie goes to the larger).

A finite nonzero number `m · 2 ^ q` owns the interval of reals that round to it: half a unit
of `2 ^ q` on either side, or a quarter unit below when `m` is the least significand of its
binade; the ends belong to it when `m` is even. For `n = 1, 2, …` the decimal grid of `n`
significant digits is laid over the value, and its two points around the value are tested
for membership in the interval. The first grid with a point inside wins. All of it is exact
arithmetic on natural numbers: the value and the interval ends are written over the common
denominator `2 ^ (q - 2)`, which is a power of ten times a whole number.

Two texts are built from the digits: the positional form (`0.0000001`, `1000000000000000000000`,
`-0`, `inf`, `NaN`), which never uses an exponent and drops a zero fraction, and the
scientific form used for interchange (`1.5e-10`), which reads back as the same number.
-/

namespace CycledWorkflow.Binary64

/-- A decimal `digits · 10 ^ exp10`. -/
structure Decimal where
  /-- The significant digits, as a number. -/
  digits : Nat
  /-- The power of ten of the last digit. -/
  exp10 : Int
  deriving DecidableEq, Repr

/-- The same decimal with trailing zero digits moved into the exponent. -/
def Decimal.normalize (d : Decimal) : Decimal :=
  go d.digits.log2.succ d
where
  /-- At most `fuel` zeros are moved. -/
  go : Nat → Decimal → Decimal
    | 0, d => d
    | fuel + 1, d =>
      if d.digits ≠ 0 ∧ d.digits % 10 = 0 then go fuel ⟨d.digits / 10, d.exp10 + 1⟩ else d

/-- The interval of a finite number in units of `2 ^ (q - 2)`: the low end, the value, the
high end, and whether the ends belong to it. -/
def roundingInterval (exponent fraction : Nat) : Nat × Nat × Nat × Bool :=
  let m := significand exponent fraction
  let low := if fraction = 0 ∧ 1 < exponent then 4 * m - 1 else 4 * m - 2
  (low, 4 * m, 4 * m + 2, m % 2 == 0)

/-- Whether `x` lies between `low` and `high`, ends included when `closed`. -/
def within (closed : Bool) (low high x : Nat) : Bool :=
  if closed then decide (low ≤ x ∧ x ≤ high) else decide (low < x ∧ x < high)

/-- The grid point chosen among the two around `v` at spacing `p`, if either lies in the
interval: the nearer, a tie going to the larger. -/
def gridChoice (closed : Bool) (low v high p : Nat) : Option Nat :=
  let lo := v / p
  let hi := lo + 1
  let loIn := within closed low high (lo * p)
  let hiIn := within closed low high (hi * p)
  if loIn && hiIn then
    if v - lo * p < hi * p - v then some lo else some hi
  else if loIn then some lo
  else if hiIn then some hi
  else none

/-- The first grid, from `n` significant digits on, that has a point in the interval. The
value has `len` digits over the denominator `10 ^ (-e0)`. -/
def searchGrids (closed : Bool) (low v high : Nat) (len : Nat) (e0 : Int) :
    Nat → Nat → Decimal
  | 0, _ => ⟨v, e0⟩
  | fuel + 1, n =>
    if len ≤ n then ⟨v, e0⟩
    else
      let k := len - n
      match gridChoice closed low v high (Nat.pow 10 k) with
      | some c => ⟨c, e0 + k⟩
      | none => searchGrids closed low v high len e0 fuel (n + 1)

/-- The shortest decimal of a finite nonzero number, given its exponent and fraction. -/
def shortestDigits (exponent fraction : Nat) : Decimal :=
  let (low, v, high, closed) := roundingInterval exponent fraction
  let j := binaryExponent exponent - 2
  let scale := if 0 ≤ j then Nat.pow 2 j.toNat else Nat.pow 5 (-j).toNat
  let e0 : Int := if 0 ≤ j then 0 else j
  let xv := v * scale
  (searchGrids closed (low * scale) xv (high * scale) (decimalLength xv) e0 17 1).normalize

/-- The characters of a natural number's decimal digits. -/
def digitChars (n : Nat) : List Char := Nat.toDigits 10 n

/-- A decimal written out without an exponent. -/
def Decimal.positional (d : Decimal) : String :=
  let s := digitChars d.digits
  if 0 ≤ d.exp10 then String.ofList (s ++ List.replicate d.exp10.toNat '0')
  else
    let point : Int := s.length + d.exp10
    if 0 < point then
      String.ofList (s.take point.toNat ++ '.' :: s.drop point.toNat)
    else
      String.ofList ('0' :: '.' :: List.replicate (-point).toNat '0' ++ s)

/-- A decimal written with one digit before the point and a power of ten after `e`. -/
def Decimal.scientific (d : Decimal) : String :=
  let s := digitChars d.digits
  let power : Int := d.exp10 + s.length - 1
  let mantissa := match s with
    | [] => ['0']
    | [c] => [c]
    | c :: rest => c :: '.' :: rest
  String.ofList mantissa ++ "e" ++ toString power

/-- The positional text of a number: shortest digits, no exponent, no zero fraction. -/
def positionalText : Binary64 → String
  | .nan => "NaN"
  | .infinite negative => if negative then "-inf" else "inf"
  | .finite negative exponent fraction =>
    let sign := if negative then "-" else ""
    if exponent = 0 ∧ fraction = 0 then sign ++ "0"
    else sign ++ (shortestDigits exponent fraction).positional

/-- The scientific text of a finite number, which reads back as the same number; `none`
for an infinity or a NaN. -/
def scientificText? : Binary64 → Option String
  | .nan | .infinite _ => none
  | .finite negative exponent fraction =>
    let sign := if negative then "-" else ""
    if exponent = 0 ∧ fraction = 0 then some (sign ++ "0.0")
    else some (sign ++ (shortestDigits exponent fraction).scientific)

end CycledWorkflow.Binary64
