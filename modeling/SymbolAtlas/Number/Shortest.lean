import SymbolAtlas.Number.Binary64

/-!
# The shortest decimal text

A number is written with the fewest decimal digits that read back as the same number, and among
those with the digits nearest to it. The reals that read back form an interval around the number;
its ends belong to it when the mantissa is even. The fewest digits are found on the coarsest grid
of powers of ten that meets the interval.
-/

namespace SymbolAtlas.Binary64

/-- The reals that round to a number, in units of a quarter of its last place. -/
structure Span where
  low : Nat
  value : Nat
  high : Nat
  closed : Bool
  /-- The unit is `2 ^ unit`. -/
  unit : Int

/-- The span of `mantissa * 2 ^ exponent`. Below a power of two the next number is half as far. -/
def span (mantissa : Nat) (exponent : Int) : Span where
  low := if 2 * mantissa = mantissaLimit ∧ leastExponent < exponent then 4 * mantissa - 1
    else 4 * mantissa - 2
  value := 4 * mantissa
  high := 4 * mantissa + 2
  closed := mantissa % 2 == 0
  unit := exponent - 2

/-- The fraction `n * 2 ^ e / 10 ^ k`. -/
def onGrid (n : Nat) (e k : Int) : Nat × Nat :=
  let num := if 0 ≤ e then n * Nat.pow 2 e.toNat else n
  let den := if 0 ≤ e then 1 else Nat.pow 2 (-e).toNat
  if 0 ≤ k then (num, den * Nat.pow 10 k.toNat) else (num * Nat.pow 10 (-k).toNat, den)

/-- The point `d` of the grid of `10 ^ k` lies in the span. -/
def Span.meets (s : Span) (k : Int) (d : Nat) : Bool :=
  let (lowNum, den) := onGrid s.low s.unit k
  let (highNum, _) := onGrid s.high s.unit k
  if s.closed then lowNum ≤ d * den && d * den ≤ highNum
  else lowNum < d * den && d * den < highNum

/-- The point of the grid of `10 ^ k` in the span that is nearest to the value. -/
def Span.nearest? (s : Span) (k : Int) : Option Nat :=
  let (num, den) := onGrid s.value s.unit k
  let below := num / den
  match s.meets k below, s.meets k (below + 1) with
  | true, true => some (roundDiv num den)
  | true, false => some below
  | false, true => some (below + 1)
  | false, false => none

/-- The fewest digits and their power of ten, looked for on finer and finer grids. -/
def Span.search (s : Span) : (count : Nat) → (k : Int) → Nat × Int
  | 0, k => (s.value, k)
  | count + 1, k => match s.nearest? k with
    | some d => (d, k)
    | none => s.search count (k - 1)

/-- The shortest decimal form `digits * 10 ^ power` of a positive number. -/
def shortest (mantissa : Nat) (exponent : Int) : Nat × Int :=
  (span mantissa exponent).search 660 310

/-- A decimal form in positional notation, without an exponent. -/
def positional (digits : Nat) (power : Int) : List Char :=
  let text := Nat.toDigits 10 digits
  if 0 ≤ power then text ++ List.replicate power.toNat '0'
  else
    let places := (-power).toNat
    let padded := List.replicate (places + 1 - text.length) '0' ++ text
    padded.take (padded.length - places) ++ '.' :: padded.drop (padded.length - places)

/-- The text of a number: always positional, without a point where the number is whole. -/
def toText : Binary64 → String
  | .nan => "NaN"
  | .infinite negative => if negative then "-inf" else "inf"
  | .finite negative m e =>
    let digits := if m = 0 then ['0'] else
      let (d, k) := shortest m e
      positional d k
    String.ofList (if negative then '-' :: digits else digits)

/-- The text of a number that shows that it is not an integer: a whole one ends in `.0`. -/
def toPointedText (x : Binary64) : String :=
  match x with
  | .finite _ _ _ => if x.toText.toList.contains '.' then x.toText else x.toText ++ ".0"
  | _ => x.toText

end SymbolAtlas.Binary64
