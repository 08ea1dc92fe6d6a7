/-!
# Decimal numerals

Reading and writing whole numbers in decimal. A signed numeral is an optional `+` or `-`
followed by one or more ASCII digits; a 64-bit numeral is one whose value lies in the
signed 64-bit range. Written numbers may be padded with zeros to a least width, the sign
counting towards the width.
-/

namespace CycledWorkflow.Text

/-- The least value of a signed 64-bit word. -/
def wordMin : Int := -9223372036854775808

/-- The greatest value of a signed 64-bit word. -/
def wordMax : Int := 9223372036854775807

/-- The greatest value of an unsigned 32-bit word. -/
def word32Max : Nat := 4294967295

/-- Whether an integer fits a signed 64-bit word. -/
def fitsWord (i : Int) : Bool := decide (wordMin ≤ i ∧ i ≤ wordMax)

/-- The value of an ASCII digit. -/
def digitValue? (c : Char) : Option Nat :=
  if c.isDigit then some (c.toNat - '0'.toNat) else none

/-- The value of a run of ASCII digits, read from the most significant one, after `acc`. -/
def readDigitsFrom (acc : Nat) : List Char → Option Nat
  | [] => some acc
  | c :: cs =>
    match digitValue? c with
    | some d => readDigitsFrom (acc * 10 + d) cs
    | none => none

/-- The value of a nonempty run of ASCII digits. -/
def readNatural : List Char → Option Nat
  | [] => none
  | cs => readDigitsFrom 0 cs

/-- The value of a signed numeral, of any size. -/
def readSigned (s : String) : Option Int :=
  match s.toList with
  | '-' :: cs => (readNatural cs).map fun n => -(n : Int)
  | '+' :: cs => (readNatural cs).map fun n => (n : Int)
  | cs => (readNatural cs).map fun n => (n : Int)

/-- The value of a signed numeral that fits a 64-bit word. -/
def readWord (s : String) : Option Int :=
  match readSigned s with
  | some i => if fitsWord i then some i else none
  | none => none

/-- The decimal digits of a natural number. -/
def natDigits (n : Nat) : String := String.ofList (Nat.toDigits 10 n)

/-- The decimal text of an integer, with a minus sign when it is negative. -/
def intText (i : Int) : String :=
  if i < 0 then "-" ++ natDigits i.natAbs else natDigits i.natAbs

/-- The decimal text of an integer padded with zeros after the sign to at least `width`
characters, sign included. -/
def padded (width : Nat) (i : Int) : String :=
  let digits := Nat.toDigits 10 i.natAbs
  let sign := if i < 0 then ['-'] else []
  let fill := List.replicate (width - sign.length - digits.length) '0'
  String.ofList (sign ++ fill ++ digits)

end CycledWorkflow.Text
