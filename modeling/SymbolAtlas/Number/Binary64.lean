/-!
# Binary floating point numbers of 64 bits

A number is kept by its parts: sign, a mantissa below `2 ^ 53` and a power of two not below
`2 ^ (-1074)`. Decimal texts are read exactly and rounded once, to the nearest number, a tie going
to the even mantissa.
-/

namespace SymbolAtlas

/-- A number of the 64-bit binary format. -/
inductive Binary64 where
  | nan
  | infinite (negative : Bool)
  /-- The number `± mantissa * 2 ^ exponent`. -/
  | finite (negative : Bool) (mantissa : Nat) (exponent : Int)
  deriving DecidableEq, Repr, Inhabited

namespace Binary64

/-- Mantissas are smaller than this power of two. -/
def mantissaLimit : Nat := 9007199254740992

/-- The least exponent. -/
def leastExponent : Int := -1074

/-- The greatest exponent. -/
def greatestExponent : Int := 971

/-- Zero with a sign. -/
def zero (negative : Bool) : Binary64 := .finite negative 0 leastExponent

/-- The quotient rounded to the nearest integer, a tie to the even one. -/
def roundDiv (num den : Nat) : Nat :=
  let q := num / den
  let r := num % den
  if 2 * r < den then q
  else if den < 2 * r then q + 1
  else if q % 2 = 0 then q else q + 1

/-- The quotient `num / (den * 2 ^ e)` as a fraction. -/
def scaled (num den : Nat) (e : Int) : Nat × Nat :=
  if 0 ≤ e then (num, den * Nat.pow 2 e.toNat) else (num * Nat.pow 2 (-e).toNat, den)

/-- The number nearest to a positive fraction. -/
def ofFraction (negative : Bool) (num den : Nat) : Binary64 :=
  let guess := max leastExponent ((Nat.log2 num : Int) - Nat.log2 den - 53)
  let fits := let (n, d) := scaled num den guess; n / d < mantissaLimit
  let e := if fits then guess else guess + 1
  let (n, d) := scaled num den e
  let m := roundDiv n d
  let (m, e) := if m = mantissaLimit then (m / 2, e + 1) else (m, e)
  if greatestExponent < e then .infinite negative else .finite negative m e

/-- The number of decimal digits. -/
def digitCount (n : Nat) : Nat := (Nat.toDigits 10 n).length

/-- The number nearest to `± digits * 10 ^ exponent`. -/
def ofDecimal (negative : Bool) (digits : Nat) (exponent : Int) : Binary64 :=
  let magnitude := (digitCount digits : Int) + exponent
  if digits = 0 ∨ magnitude < -330 then zero negative
  else if 310 < magnitude then .infinite negative
  else if 0 ≤ exponent then ofFraction negative (digits * Nat.pow 10 exponent.toNat) 1
  else ofFraction negative digits (Nat.pow 10 (-exponent).toNat)

/-- The number is neither zero of any sign. -/
def isNonzero : Binary64 → Bool
  | .finite _ m _ => m != 0
  | _ => true

/-- The nearest natural number, a half going away from zero, within `0` and `limit`. -/
def toNatSaturated (limit : Nat) : Binary64 → Nat
  | .nan => 0
  | .infinite negative => if negative then 0 else limit
  | .finite negative m e =>
    if negative then 0
    else
      let (n, d) := scaled m 1 (-e)
      min limit ((2 * n + d) / (2 * d))

end Binary64

end SymbolAtlas
