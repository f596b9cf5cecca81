import SymbolAtlas.Toml.Quote

/-!
# Dates and times in TOML

A moment is a date, a time, or both, the latter possibly with an offset. Settings know moments only
by their normal text: the letter `T` between date and time, nine places of a second at most, no
zeros at their end.
-/

namespace SymbolAtlas.Toml

/-- So many decimal digits, as a number. -/
def fixedDigits? (count : Nat) (cs : List Char) : Option (Nat × List Char) :=
  let digits := cs.take count
  if digits.length = count ∧ digits.all Char.isDigit then
    some (digits.foldl (fun n c => 10 * n + (c.toNat - 0x30)) 0, cs.drop count)
  else none

/-- What follows the given character. -/
def after? (c : Char) : List Char → Option (List Char)
  | d :: rest => if c = d then some rest else none
  | [] => none

/-- A number with at least so many digits. -/
def paddedText (width n : Nat) : List Char :=
  let digits := Nat.toDigits 10 n
  List.replicate (width - digits.length) '0' ++ digits

/-- The year has a 29th of February. -/
def isLeap (year : Nat) : Bool := year % 4 == 0 && (year % 100 != 0 || year % 400 == 0)

/-- The days of a month. -/
def daysIn (year month : Nat) : Nat :=
  if month = 2 then if isLeap year then 29 else 28
  else if month = 4 ∨ month = 6 ∨ month = 9 ∨ month = 11 then 30
  else 31

/-- A date, as its text. -/
def date? (cs : List Char) : Option (List Char × List Char) := do
  let (year, rest) ← fixedDigits? 4 cs
  let (month, rest) ← fixedDigits? 2 (← after? '-' rest)
  let (day, rest) ← fixedDigits? 2 (← after? '-' rest)
  if 1 ≤ month ∧ month ≤ 12 ∧ 1 ≤ day ∧ day ≤ daysIn year month then
    some (paddedText 4 year ++ '-' :: paddedText 2 month ++ '-' :: paddedText 2 day, rest)
  else none

/-- The places of a second that are kept: at most nine, without zeros at the end. -/
def placesText (digits : List Char) : List Char :=
  match ((digits.take 9).reverse.dropWhile (· == '0')).reverse with
  | [] => []
  | kept => '.' :: kept

/-- A time of day, as its text. -/
def time? (cs : List Char) : Option (List Char × List Char) := do
  let (hour, rest) ← fixedDigits? 2 cs
  let (minute, rest) ← fixedDigits? 2 (← after? ':' rest)
  let (second, rest) ← fixedDigits? 2 (← after? ':' rest)
  if 23 < hour ∨ 59 < minute ∨ 60 < second then none
  let whole := paddedText 2 hour ++ ':' :: paddedText 2 minute ++ ':' :: paddedText 2 second
  match rest with
  | '.' :: more =>
    let digits := more.takeWhile Char.isDigit
    if digits.isEmpty then none
    else some (whole ++ placesText digits, more.dropWhile Char.isDigit)
  | _ => some (whole, rest)

/-- Hours and minutes after a sign, as the text of an offset; zero is written with a plus. -/
def signedOffset? (mark : Char) (cs : List Char) : Option (List Char × List Char) := do
  let (hours, rest) ← fixedDigits? 2 cs
  let (minutes, rest) ← fixedDigits? 2 (← after? ':' rest)
  if 23 < hours ∨ 59 < minutes then none
  let mark := if hours = 0 ∧ minutes = 0 then '+' else mark
  some (mark :: paddedText 2 hours ++ ':' :: paddedText 2 minutes, rest)

/-- An offset from universal time, as its text; no offset is the empty text. -/
def offset? (cs : List Char) : Option (List Char × List Char) :=
  match cs with
  | 'Z' :: rest | 'z' :: rest => some (['Z'], rest)
  | '+' :: rest => signedOffset? '+' rest
  | '-' :: rest => signedOffset? '-' rest
  | _ => some ([], cs)

/-- The time after a date: after a letter it must follow, after a blank it may. -/
def timeAfterDate? (cs : List Char) : Option (List Char) :=
  match cs with
  | 'T' :: rest | 't' :: rest => some rest
  | ' ' :: a :: b :: ':' :: rest =>
    if a.isDigit && b.isDigit then some (a :: b :: ':' :: rest) else none
  | _ => none

/-- A moment, as its text. -/
def moment? (cs : List Char) : Option (List Char × List Char) :=
  match date? cs with
  | some (date, rest) => match timeAfterDate? rest with
    | none => some (date, rest)
    | some more => do
      let (time, rest) ← time? more
      let (offset, rest) ← offset? rest
      some (date ++ 'T' :: time ++ offset, rest)
  | none => time? cs

end SymbolAtlas.Toml
