import CycledWorkflow.Json.Value
import CycledWorkflow.Binary64
/-!
# Reading JSON

A reader for JSON text, strict about the grammar: no leading zeros, at least one digit after
a point or an exponent mark, escapes as the standard lists them (a surrogate pair of `\u`
escapes makes one character, a lone surrogate is refused), no raw control characters in
strings, blanks only between tokens, arrays and objects nested at most 127 deep.

Numbers are read the way a fast streaming reader reads them. The digits accumulate into an
unsigned 64-bit significand; a whole number that fits a 64-bit word becomes an integer
(a minus zero, or a negative number below the signed range, becomes a float instead). For a
float, digits that would overflow the significand are dropped (before the point they raise
the decimal exponent), and the value is the significand made a binary64 number, then
multiplied or divided once by the binary64 power of ten (twice, by `10 ^ 308` first, for
exponents below `-308`). Each step rounds correctly, the result as a whole need not. A
float that overflows, or an exponent past the 32-bit range with a nonzero significand, is
refused.
-/

namespace CycledWorkflow.Json

open CycledWorkflow.Binary64 (ofNat ofDecimal)

/-- The greatest unsigned 64-bit word. -/
def u64Max : Nat := 18446744073709551615

/-- The greatest signed 32-bit word. -/
def i32Max : Int := 2147483647

/-- The binary64 power of ten `10 ^ i`, correctly rounded. -/
def powerOfTen (i : Nat) : Binary64 := ofDecimal false 1 i

/-- Whether a character separates tokens. -/
def isJsonBlank (c : Char) : Bool := c = ' ' || c = '\t' || c = '\n' || c = '\r'

/-- The characters after leading blanks. -/
def skipBlank (cs : List Char) : List Char := cs.dropWhile isJsonBlank

/-- The significand, as a binary64 number, scaled by `10 ^ exponent`, with the sign applied
last; `none` when the magnitude overflows. -/
def scaleSignificand (positive : Bool) (significand : Nat) (exponent : Int) : Option Binary64 :=
  let rec go : Nat → Binary64 → Int → Option Binary64
    | 0, f, _ => some f
    | fuel + 1, f, e =>
      if e.natAbs ≤ 308 then
        if 0 ≤ e then
          let g := f.mul (powerOfTen e.natAbs)
          if g.isInfinite then none else some g
        else some (f.div (powerOfTen e.natAbs))
      else if f.isZero then some f
      else if 0 ≤ e then none
      else go fuel (f.div (powerOfTen 308)) (e + 308)
  (go 8 (ofNat significand) exponent).map fun f => if positive then f else f.neg

/-- Whether appending a digit to a significand passes the 64-bit range. -/
def digitOverflows (significand d : Nat) : Bool := u64Max < significand * 10 + d

/-- The digits at the front of a sequence and the rest. -/
def spanDigits (cs : List Char) : List Char × List Char :=
  (cs.takeWhile Char.isDigit, cs.dropWhile Char.isDigit)

/-- The value of an ASCII digit. -/
def digitOf (c : Char) : Nat := c.toNat - '0'.toNat

/-- Reading the exponent part, after its mark. -/
def readExponent (positive : Bool) (significand : Nat) (start : Int) (cs : List Char) :
    Option (Binary64 × List Char) :=
  let (positiveExp, rest) := match cs with
    | '+' :: r => (true, r)
    | '-' :: r => (false, r)
    | r => (true, r)
  let (ds, after) := spanDigits rest
  if ds.isEmpty then none
  else
    let exp : Nat := ds.foldl (fun a c => a * 10 + digitOf c) 0
    if i32Max < exp then
      -- the exponent overflows: a zero for a negative exponent or a zero significand
      if significand ≠ 0 ∧ positiveExp then none
      else some (if positive then .finite false 0 0 else .finite true 0 0, after)
    else
      let e : Int := if positiveExp then start + exp else start - exp
      let e := max (min e i32Max) (-i32Max - 1)
      (scaleSignificand positive significand e).map fun f => (f, after)

/-- The float after the exponent mark, if any, with the digits read so far. -/
def finishFloat (positive : Bool) (significand : Nat) (exponent : Int) (cs : List Char) :
    Option (Binary64 × List Char) :=
  match cs with
  | 'e' :: r | 'E' :: r => readExponent positive significand exponent r
  | _ => (scaleSignificand positive significand exponent).map fun f => (f, cs)

/-- Reading fraction digits into the significand until one would overflow it. Returns the
significand, the count of digits taken and the rest, with any digits that did not fit
dropped. -/
def readFraction (significand : Nat) (taken : Nat) : List Char → Nat × Nat × List Char
  | [] => (significand, taken, [])
  | c :: cs =>
    if c.isDigit then
      if digitOverflows significand (digitOf c) then
        (significand, taken, cs.dropWhile Char.isDigit)
      else readFraction (significand * 10 + digitOf c) (taken + 1) cs
    else (significand, taken, c :: cs)

/-- The float after a decimal point. -/
def readDecimal (positive : Bool) (significand : Nat) (before : Int) (cs : List Char) :
    Option (Binary64 × List Char) :=
  match cs with
  | c :: _ =>
    if !c.isDigit then none
    else
      let (sig, taken, rest) := readFraction significand 0 cs
      finishFloat positive sig (before - taken) rest
  | [] => none

/-- Reading integer digits into the significand; on overflow the remaining digits raise the
exponent instead. -/
def readWhole (significand : Nat) : List Char → Nat × Nat × List Char
  | [] => (significand, 0, [])
  | c :: cs =>
    if c.isDigit then
      if digitOverflows significand (digitOf c) then
        let (ds, rest) := spanDigits (c :: cs)
        (significand, ds.length, rest)
      else readWhole (significand * 10 + digitOf c) cs
    else (significand, 0, c :: cs)

/-- The number after an optional minus sign. -/
def readNumber (positive : Bool) (cs : List Char) : Option (Value × List Char) :=
  let parsed : Option (Nat × Nat × List Char) := match cs with
    | '0' :: rest =>
      match rest with
      | c :: _ => if c.isDigit then none else some (0, 0, rest)
      | [] => some (0, 0, [])
    | c :: _ => if c.isDigit then some (readWhole 0 cs) else none
    | [] => none
  match parsed with
  | none => none
  | some (significand, dropped, rest) =>
    match rest with
    | '.' :: r => (readDecimal positive significand dropped r).map fun (f, t) => (.float f, t)
    | 'e' :: _ | 'E' :: _ =>
      (finishFloat positive significand dropped rest).map fun (f, t) => (.float f, t)
    | _ =>
      if dropped ≠ 0 then
        (scaleSignificand positive significand dropped).map fun f => (.float f, rest)
      else if positive then some (.int significand, rest)
      else if significand = 0 ∨ Nat.pow 2 63 < significand then
        some (.float (ofNat significand).neg, rest)
      else some (.int (-(significand : Int)), rest)

/-- The value of a hexadecimal digit. -/
def hexValue? (c : Char) : Option Nat :=
  if c.isDigit then some (c.toNat - '0'.toNat)
  else if 'a' ≤ c ∧ c ≤ 'f' then some (c.toNat - 'a'.toNat + 10)
  else if 'A' ≤ c ∧ c ≤ 'F' then some (c.toNat - 'A'.toNat + 10)
  else none

/-- Four hexadecimal digits and the rest. -/
def readHex4 : (cs : List Char) → Option (Nat × { r : List Char // r.length + 4 = cs.length })
  | a :: b :: c :: d :: rest =>
    match hexValue? a, hexValue? b, hexValue? c, hexValue? d with
    | some w, some x, some y, some z => some (((w * 16 + x) * 16 + y) * 16 + z, ⟨rest, by simp⟩)
    | _, _, _, _ => none
  | _ => none

/-- The character of a `\u` escape (a pair of them for a surrogate pair) and the rest. -/
def readUnicodeEscape (cs : List Char) :
    Option (Char × { r : List Char // r.length < cs.length }) :=
  match readHex4 cs with
  | none => none
  | some (n, ⟨rest, hrest⟩) =>
    if 0xDC00 ≤ n ∧ n ≤ 0xDFFF then none
    else if 0xD800 ≤ n ∧ n ≤ 0xDBFF then
      match rest, hrest with
      | '\\' :: 'u' :: more, h =>
        match readHex4 more with
        | some (lo, ⟨after, hafter⟩) =>
          if 0xDC00 ≤ lo ∧ lo ≤ 0xDFFF then
            some (Char.ofNat (0x10000 + (n - 0xD800) * 0x400 + (lo - 0xDC00)),
              ⟨after, by simp at h; omega⟩)
          else none
        | none => none
      | _, _ => none
    else some (Char.ofNat n, ⟨rest, by omega⟩)

/-- The characters of a string up to its closing quote, and what follows it. -/
def readStringBody (acc : List Char) : List Char → Option (String × List Char)
  | [] => none
  | '"' :: rest => some (String.ofList acc.reverse, rest)
  | '\\' :: rest =>
    match rest with
    | '"' :: r => readStringBody ('"' :: acc) r
    | '\\' :: r => readStringBody ('\\' :: acc) r
    | '/' :: r => readStringBody ('/' :: acc) r
    | 'b' :: r => readStringBody ('\x08' :: acc) r
    | 'f' :: r => readStringBody ('\x0c' :: acc) r
    | 'n' :: r => readStringBody ('\n' :: acc) r
    | 'r' :: r => readStringBody ('\r' :: acc) r
    | 't' :: r => readStringBody ('\t' :: acc) r
    | 'u' :: r =>
      match readUnicodeEscape r with
      | some (c, ⟨after, _⟩) => readStringBody (c :: acc) after
      | none => none
    | _ => none
  | c :: rest => if c.toNat < 0x20 then none else readStringBody (c :: acc) rest
termination_by cs => cs.length

/-- The literal word at the front of a sequence, if it is one. -/
def readLiteral : List Char → Option (Value × List Char)
  | 'n' :: 'u' :: 'l' :: 'l' :: rest => some (.null, rest)
  | 't' :: 'r' :: 'u' :: 'e' :: rest => some (.bool true, rest)
  | 'f' :: 'a' :: 'l' :: 's' :: 'e' :: rest => some (.bool false, rest)
  | _ => none

mutual

/-- A document at the front of a sequence (after blanks), and the rest. Nesting and
iteration are bounded by `fuel`; every step consumes a character, so the length of the text
is enough. -/
def readValue : Nat → List Char → Option (Value × List Char)
  | 0, _ => none
  | fuel + 1, cs =>
    match skipBlank cs with
    | '{' :: rest => readMembers fuel rest
    | '[' :: rest => readItems fuel rest
    | '"' :: rest => (readStringBody [] rest).map fun (s, r) => (.str s, r)
    | '-' :: rest => readNumber false rest
    | c :: rest =>
      if c.isDigit then readNumber true (c :: rest) else readLiteral (c :: rest)
    | [] => none

/-- The items of an array after its opening bracket. -/
def readItems : Nat → List Char → Option (Value × List Char)
  | 0, _ => none
  | fuel + 1, cs =>
    match skipBlank cs with
    | ']' :: rest => some (.arr [], rest)
    | other =>
      match readValue fuel other with
      | some (v, after) => readItemsAfter fuel [v] after
      | none => none

/-- The array after an item: a closing bracket or a comma and the next item. -/
def readItemsAfter : Nat → List Value → List Char → Option (Value × List Char)
  | 0, _, _ => none
  | fuel + 1, acc, cs =>
    match skipBlank cs with
    | ']' :: rest => some (.arr acc.reverse, rest)
    | ',' :: rest =>
      match readValue fuel rest with
      | some (v, after) => readItemsAfter fuel (v :: acc) after
      | none => none
    | _ => none

/-- The members of an object after its opening brace. -/
def readMembers : Nat → List Char → Option (Value × List Char)
  | 0, _ => none
  | fuel + 1, cs =>
    match skipBlank cs with
    | '}' :: rest => some (.obj [], rest)
    | '"' :: rest => readMember fuel [] rest
    | _ => none

/-- One member after the quote that opens its name, then the rest of the object. -/
def readMember : Nat → List (String × Value) → List Char → Option (Value × List Char)
  | 0, _, _ => none
  | fuel + 1, acc, cs =>
    match readStringBody [] cs with
    | none => none
    | some (name, rest) =>
      match skipBlank rest with
      | ':' :: r =>
        match readValue fuel r with
        | none => none
        | some (v, after) =>
          match skipBlank after with
          | '}' :: more => some (.obj ((name, v) :: acc).reverse, more)
          | ',' :: more =>
            match skipBlank more with
            | '"' :: r2 => readMember fuel ((name, v) :: acc) r2
            | _ => none
          | _ => none
      | _ => none

end

/-- The deepest nesting of arrays and objects that a document may have. -/
def maxNesting : Nat := 127

/-- The document that a whole text holds, blanks around it allowed; a document nested more
than `maxNesting` deep is refused. -/
def read (text : String) : Option Value :=
  let cs := text.toList
  match readValue (cs.length + 1) cs with
  | some (v, rest) =>
    if (skipBlank rest).isEmpty && decide (v.depth ≤ maxNesting) then some v else none
  | none => none

end CycledWorkflow.Json
