import SymbolAtlas.Number.Width
import SymbolAtlas.Settings.Value
import SymbolAtlas.Toml.Quote

/-!
# Numbers in TOML

Integers of 64 bits in four bases and binary floating point numbers. Underscores may stand between
digits; a decimal number has no leading zeros.
-/

namespace SymbolAtlas.Toml

open Settings (Value)

/-- Digits with single underscores between them, without the underscores. -/
def digitRun? (isDigit : Char → Bool) : List Char → Option (List Char × List Char)
  | [] => none
  | c :: '_' :: rest =>
    if isDigit c then (digitRun? isDigit rest).map fun (ds, rest) => (c :: ds, rest) else none
  | c :: cs =>
    if isDigit c then
      match digitRun? isDigit cs with
      | some (ds, rest) => some (c :: ds, rest)
      | none => some ([c], cs)
    else none

/-- The number that digits spell in a base. -/
def digitsValue (base : Nat) (digits : List Char) : Nat :=
  digits.foldl (fun n c => base * n + (hexDigit? c).getD 0) 0

/-- A sign, and whether it is a minus. -/
def sign : List Char → Bool × List Char
  | '-' :: rest => (true, rest)
  | '+' :: rest => (false, rest)
  | cs => (false, cs)

/-- Decimal digits without leading zeros. -/
def decimal? (cs : List Char) : Option (List Char × List Char) :=
  match cs with
  | '0' :: rest => some (['0'], rest)
  | _ => digitRun? Char.isDigit cs

/-- A digit of the base. -/
def isBaseDigit (base : Nat) (c : Char) : Bool :=
  match hexDigit? c with
  | some d => d < base
  | none => false

/-- An integer that fits in 64 bits. -/
def integer? (cs : List Char) : Option (Value × List Char) :=
  let based (base : Nat) (rest : List Char) : Option (Value × List Char) := do
    let (digits, rest) ← digitRun? (isBaseDigit base) rest
    let n := digitsValue base digits
    if Number.isSigned64 n then some (.int n, rest) else none
  match cs with
  | '0' :: 'x' :: rest => based 16 rest
  | '0' :: 'o' :: rest => based 8 rest
  | '0' :: 'b' :: rest => based 2 rest
  | _ => do
    let (negative, rest) := sign cs
    let (digits, rest) ← decimal? rest
    let n : Int := digitsValue 10 digits
    let n := if negative then -n else n
    if Number.isSigned64 n then some (.int n, rest) else none

/-- An exponent after its mark. -/
def exponent? (cs : List Char) : Option (Int × List Char) := do
  let (negative, rest) := sign cs
  let (digits, rest) ← digitRun? Char.isDigit rest
  let n : Int := digitsValue 10 digits
  some (if negative then -n else n, rest)

/-- An exponent with its mark, if there is one. -/
def optionalExponent? : List Char → Option (Option Int × List Char)
  | c :: rest =>
    if c = 'e' ∨ c = 'E' then (exponent? rest).map fun (e, rest) => (some e, rest)
    else some (none, c :: rest)
  | [] => some (none, [])

/-- A number with a fraction, an exponent or both. One that is too large to be a finite number is
refused, unless it is negative. -/
def decimalFloat? (cs : List Char) : Option (Value × List Char) := do
  let (negative, rest) := sign cs
  let (whole, rest) ← decimal? rest
  let (fraction, rest) ← match rest with
    | '.' :: more => (digitRun? Char.isDigit more).map fun (ds, rest) => (some ds, rest)
    | _ => some (none, rest)
  let (exponent, rest) ← optionalExponent? rest
  if fraction.isNone ∧ exponent.isNone then none
  let places := fraction.getD []
  let x := Binary64.ofDecimal negative (digitsValue 10 (whole ++ places))
    (exponent.getD 0 - (places.length : Int))
  if x = .infinite false then none else some (.float x, rest)

/-- Infinity or the number that is none. -/
def specialFloat? (cs : List Char) : Option (Value × List Char) :=
  let (negative, rest) := sign cs
  match rest with
  | 'i' :: 'n' :: 'f' :: more => some (.float (.infinite negative), more)
  | 'n' :: 'a' :: 'n' :: more => some (.float .nan, more)
  | _ => none

/-- A number. -/
def number? (cs : List Char) : Option (Value × List Char) :=
  decimalFloat? cs <|> specialFloat? cs <|> integer? cs

end SymbolAtlas.Toml
