import SymbolAtlas.Json
import SymbolAtlas.Number.Width

/-!
# Reading JSON

`Json.parse?` reads one value and nothing after it but white space. The readers give back what
follows the value; `depth` bounds how deeply lists and objects may nest.
-/

namespace SymbolAtlas.Json

/-- White space between tokens. -/
def isSpace (c : Char) : Bool := c == ' ' || c == '\n' || c == '\t' || c == '\r'

/-- What follows white space. -/
def skipSpace (cs : List Char) : List Char := cs.dropWhile isSpace

/-- The value of a hexadecimal digit. -/
def hexDigit? (c : Char) : Option Nat :=
  if '0' ≤ c ∧ c ≤ '9' then some (c.toNat - 0x30)
  else if 'a' ≤ c ∧ c ≤ 'f' then some (c.toNat - 0x57)
  else if 'A' ≤ c ∧ c ≤ 'F' then some (c.toNat - 0x37)
  else none

/-- Four hexadecimal digits. -/
def hex4? : List Char → Option (Nat × List Char)
  | a :: b :: c :: d :: cs => do
    let n := [← hexDigit? a, ← hexDigit? b, ← hexDigit? c, ← hexDigit? d]
    some (n.foldl (fun acc x => 16 * acc + x) 0, cs)
  | _ => none

/-- The character after a backslash and a `u`; a pair of surrogates makes one character. -/
def unicodeEscape? (cs : List Char) : Option (Char × List Char) := do
  let (high, rest) ← hex4? cs
  if 0xD800 ≤ high ∧ high < 0xDC00 then
    match rest with
    | '\\' :: 'u' :: more =>
      let (low, rest) ← hex4? more
      if 0xDC00 ≤ low ∧ low < 0xE000 then
        some (Char.ofNat (0x10000 + (high - 0xD800) * 0x400 + (low - 0xDC00)), rest)
      else none
    | _ => none
  else if 0xDC00 ≤ high ∧ high < 0xE000 then none
  else some (Char.ofNat high, rest)

/-- The character that an escape stands for. -/
def escape? : List Char → Option (Char × List Char)
  | '"' :: cs => some ('"', cs)
  | '\\' :: cs => some ('\\', cs)
  | '/' :: cs => some ('/', cs)
  | 'b' :: cs => some ('\x08', cs)
  | 'f' :: cs => some ('\x0c', cs)
  | 'n' :: cs => some ('\n', cs)
  | 'r' :: cs => some ('\r', cs)
  | 't' :: cs => some ('\t', cs)
  | 'u' :: cs => unicodeEscape? cs
  | _ => none

/-- The characters of a string up to its closing quote; `fuel` bounds their number. -/
def stringTail? : (fuel : Nat) → List Char → Option (List Char × List Char)
  | 0, _ => none
  | _, [] => none
  | fuel + 1, c :: cs =>
    if c = '"' then some ([], cs)
    else if c = '\\' then do
      let (d, rest) ← escape? cs
      let (ds, rest) ← stringTail? fuel rest
      some (d :: ds, rest)
    else if c.toNat < 0x20 then none
    else do
      let (ds, rest) ← stringTail? fuel cs
      some (c :: ds, rest)

/-- A string after its opening quote. -/
def string? (cs : List Char) : Option (String × List Char) :=
  (stringTail? (cs.length + 1) cs).map fun (s, rest) => (String.ofList s, rest)

/-- The number that a sequence of digits spells. -/
def digitsValue (cs : List Char) : Nat := cs.foldl (fun n c => 10 * n + (c.toNat - 0x30)) 0

/-- A number: digits without a leading zero, optional fraction and exponent. -/
def number? (cs : List Char) : Option (Json × List Char) := do
  let (negative, cs) := match cs with
    | '-' :: rest => (true, rest)
    | _ => (false, cs)
  let whole := cs.takeWhile Char.isDigit
  let cs := cs.dropWhile Char.isDigit
  if whole.isEmpty ∨ (whole.head? = some '0' ∧ 1 < whole.length) then none
  let (fraction, cs) ← match cs with
    | '.' :: rest =>
      let digits := rest.takeWhile Char.isDigit
      if digits.isEmpty then none else some (some digits, rest.dropWhile Char.isDigit)
    | _ => some (none, cs)
  let (exponent, cs) ← match cs with
    | e :: rest =>
      if e = 'e' ∨ e = 'E' then
        let (sign, rest) := match rest with
          | '-' :: more => ((-1 : Int), more)
          | '+' :: more => (1, more)
          | _ => (1, rest)
        let digits := rest.takeWhile Char.isDigit
        if digits.isEmpty then none
        else some (some (sign * (digitsValue digits : Int)), rest.dropWhile Char.isDigit)
      else some (none, cs)
    | [] => some (none, cs)
  let n := digitsValue whole
  let fits := if negative then n != 0 && Number.isSigned64 (-n) else n < Number.words64
  if fraction.isNone && exponent.isNone && fits then
    some (.int (if negative then -(n : Int) else n), cs)
  else
    let places := fraction.getD []
    let x := Binary64.ofDecimal negative (digitsValue (whole ++ places))
      (exponent.getD 0 - (places.length : Int))
    match x with
    | .infinite _ => none
    | _ => some (.float x, cs)

/-- What follows the given word at the start of a text. -/
def word? (word : String) (cs : List Char) : Option (List Char) :=
  if word.toList.isPrefixOf cs then some (cs.drop word.length) else none

mutual

/-- A value. -/
def value? (fuel : Nat) (cs : List Char) : Option (Json × List Char) :=
  match fuel with
  | 0 => none
  | fuel + 1 => match skipSpace cs with
    | '"' :: rest => (string? rest).map fun (s, rest) => (.str s, rest)
    | '[' :: rest => match skipSpace rest with
      | ']' :: rest => some (.arr [], rest)
      | rest => (items? fuel rest).map fun (items, rest) => (.arr items, rest)
    | '\x7b' :: rest => match skipSpace rest with
      | '\x7d' :: rest => some (.obj [], rest)
      | rest => (fields? fuel rest).map fun (fields, rest) => (.obj fields, rest)
    | 'n' :: rest => (word? "ull" rest).map fun rest => (.null, rest)
    | 't' :: rest => (word? "rue" rest).map fun rest => (.bool true, rest)
    | 'f' :: rest => (word? "alse" rest).map fun rest => (.bool false, rest)
    | rest => number? rest

/-- The items of a list up to its closing bracket. -/
def items? (fuel : Nat) (cs : List Char) : Option (List Json × List Char) :=
  match fuel with
  | 0 => none
  | fuel + 1 => do
    let (item, rest) ← value? fuel cs
    match skipSpace rest with
    | ',' :: rest =>
      let (items, rest) ← items? fuel rest
      some (item :: items, rest)
    | ']' :: rest => some ([item], rest)
    | _ => none

/-- The fields of an object up to its closing brace. -/
def fields? (fuel : Nat) (cs : List Char) : Option (List (String × Json) × List Char) :=
  match fuel with
  | 0 => none
  | fuel + 1 => do
    match skipSpace cs with
    | '"' :: rest =>
      let (name, rest) ← string? rest
      match skipSpace rest with
      | ':' :: rest =>
        let (value, rest) ← value? fuel rest
        match skipSpace rest with
        | ',' :: rest =>
          let (fields, rest) ← fields? fuel rest
          some ((name, value) :: fields, rest)
        | '\x7d' :: rest => some ([(name, value)], rest)
        | _ => none
      | _ => none
    | _ => none

end

/-- Reads a text that holds one value. -/
def parse? (text : String) : Option Json := do
  let cs := text.toList
  let (value, rest) ← value? (cs.length + 1) cs
  if (skipSpace rest).isEmpty then some value else none

end SymbolAtlas.Json
