import SymbolAtlas.Text.Lines
import SymbolAtlas.Uri.Percent

/-!
# Hosts

A host of a special scheme is a domain, an IPv4 address or an IPv6 address in brackets; in any
other scheme it is a text that may not hold the delimiters of an identifier. Domains are ASCII:
one that spells a name beyond ASCII is refused.
-/

namespace SymbolAtlas.Uri

/-- Characters that no host may hold. -/
def forbiddenInHost : List Char :=
  ['\x00', '\t', '\n', '\r', ' ', '#', '/', ':', '<', '>', '?', '@', '[', '\\', ']', '^', '|']

/-- Characters that no domain may hold. -/
def forbiddenInDomain (c : Char) : Bool :=
  c.toNat < 0x20 || c.toNat ≥ 0x7F || c == '%' || forbiddenInHost.contains c

/-- The value of a digit sequence in the given base; `none` if a character is no digit. -/
def digits? (base : Nat) (cs : List Char) : Option Nat :=
  cs.foldl (fun acc c => do
    let n ← acc
    let d ← hexValue? c
    if d < base then some (base * n + d) else none) (some 0)

/-- A part of an IPv4 address: decimal, octal after a zero, hexadecimal after `0x`. -/
def ipv4Number? (cs : List Char) : Option Nat :=
  match cs with
  | [] => none
  | '0' :: 'x' :: rest | '0' :: 'X' :: rest => digits? 16 rest
  | '0' :: c :: rest => digits? 8 (c :: rest)
  | _ => digits? 10 cs

/-- The label is a number. -/
def isNumeric (label : List Char) : Bool :=
  (!label.isEmpty && label.all Char.isDigit) || (ipv4Number? label).isSome

/-- A domain that must be read as an IPv4 address: its last label is a number. -/
def endsInNumber (labels : List (List Char)) : Bool :=
  match labels.reverse with
  | [] => false
  | [] :: [] => false
  | [] :: label :: _ => isNumeric label
  | label :: _ => isNumeric label

/-- The value of an IPv4 address from its parts: all but the last are bytes, and the last fills
what is left. -/
def ipv4Value? (parts : List Nat) : Option Nat :=
  match parts.reverse with
  | [] => none
  | last :: init =>
    if 3 < init.length ∨ init.any (255 < ·) ∨ Nat.pow 256 (4 - init.length) ≤ last then none
    else
      let weigh (sum : Nat) (part : Nat × Nat) := sum + part.1 * Nat.pow 256 (3 - part.2)
      some (init.reverse.zipIdx.foldl weigh last)

/-- An IPv4 address, normalised to four bytes. -/
def ipv4? (labels : List (List Char)) : Option (List Char) := do
  let labels := if labels.getLast? = some [] ∧ 1 < labels.length then labels.dropLast else labels
  if 4 < labels.length then none
  let value ← ipv4Value? (← labels.mapM ipv4Number?)
  let bytes := [value / 0x1000000, value / 0x10000 % 0x100, value / 0x100 % 0x100, value % 0x100]
  some (Text.joinWith '.' (bytes.map (Nat.toDigits 10)))

/-- A byte of an IPv4 address inside an IPv6 address: decimal, without leading zeros. -/
def embeddedByte? (cs : List Char) : Option Nat :=
  match cs with
  | [] => none
  | '0' :: _ :: _ => none
  | _ => do
    let n ← digits? 10 cs
    if n < 256 then some n else none

/-- The 16-bit pieces that a group of an IPv6 address stands for. -/
def ipv6Group? (cs : List Char) : Option (List Nat) :=
  if cs.contains '.' then do
    match ← (Text.splitOn '.' cs).mapM embeddedByte? with
    | [a, b, c, d] => some [256 * a + b, 256 * c + d]
    | _ => none
  else if cs.isEmpty ∨ 4 < cs.length then none
  else (digits? 16 cs).map ([·])

/-- The pieces of groups between colons; only the very last group may be an IPv4 address. -/
def ipv6Groups? (final : Bool) (cs : List Char) : Option (List Nat) :=
  if cs.isEmpty then some []
  else do
    let groups := Text.splitOn ':' cs
    let inner := if final then groups.dropLast else groups
    if inner.any (·.contains '.') then none
    return (← groups.mapM ipv6Group?).flatten

/-- Cuts a text at its first double colon. -/
def atDoubleColon : List Char → Option (List Char × List Char)
  | ':' :: ':' :: rest => some ([], rest)
  | c :: rest => (atDoubleColon rest).map fun (before, after) => (c :: before, after)
  | [] => none

/-- The eight pieces of an IPv6 address. -/
def ipv6Pieces? (cs : List Char) : Option (List Nat) := do
  match atDoubleColon cs with
  | none =>
    let pieces ← ipv6Groups? true cs
    if pieces.length = 8 then some pieces else none
  | some (before, after) =>
    let front ← ipv6Groups? false before
    let back ← ipv6Groups? true after
    if 7 < front.length + back.length then none
    else some (front ++ List.replicate (8 - front.length - back.length) 0 ++ back)

/-- Length of the run of zeros at the start. -/
def zeroRun (pieces : List Nat) : Nat := (pieces.takeWhile (· == 0)).length

/-- The start of the first longest run of at least two zeros. -/
def longestZeros (pieces : List Nat) : Option (Nat × Nat) :=
  let runs := (List.range pieces.length).map fun i => (i, zeroRun (pieces.drop i))
  let best := runs.foldl (fun best run => if best.2 < run.2 then run else best) (0, 1)
  if 1 < best.2 then some best else none

/-- The normal form of an IPv6 address, in brackets. -/
def ipv6Text (pieces : List Nat) : List Char :=
  let group (ps : List Nat) := Text.joinWith ':' (ps.map (Nat.toDigits 16))
  let body := match longestZeros pieces with
    | none => group pieces
    | some (start, length) =>
      group (pieces.take start) ++ [':', ':'] ++ group (pieces.drop (start + length))
  '[' :: body ++ [']']

/-- An IPv6 address in brackets. -/
def bracketed? (cs : List Char) : Option (List Char) :=
  match cs.reverse with
  | ']' :: inner => (ipv6Pieces? inner.reverse).map ipv6Text
  | _ => none

/-- The host of a special scheme, in normal form. -/
def specialHost? (cs : List Char) : Option (List Char) :=
  match cs with
  | '[' :: rest => bracketed? rest
  | _ =>
    let name := (Text.ofUtf8Lossy (decode cs)).map Char.toLower
    let labels := Text.splitOn '.' name
    if name.isEmpty ∨ name.any forbiddenInDomain then none
    else if endsInNumber labels then ipv4? labels
    else some name

/-- The host of any other scheme, in normal form. -/
def plainHost? (cs : List Char) : Option (List Char) :=
  match cs with
  | '[' :: rest => bracketed? rest
  | _ => if cs.any forbiddenInHost.contains then none else some (encode controls cs)

end SymbolAtlas.Uri
