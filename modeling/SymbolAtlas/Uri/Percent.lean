import SymbolAtlas.Text.Utf8

/-!
# Percent encoding

Each part of an identifier has a set of ASCII characters that are written by their number. Controls
and everything beyond ASCII are always written so, byte by byte.
-/

namespace SymbolAtlas.Uri

/-- The ASCII characters, other than controls, that a part of an identifier does not show. -/
abbrev EncodeSet := List Char

/-- Only controls. -/
def controls : EncodeSet := []

/-- For the part after the number sign. -/
def fragmentSet : EncodeSet := [' ', '"', '<', '>', '\x60']

/-- For the part after the question mark. -/
def querySet : EncodeSet := [' ', '"', '#', '<', '>']

/-- For the part after the question mark where the scheme is a special one. -/
def specialQuerySet : EncodeSet := '\x27' :: querySet

/-- For a path that is being read. -/
def pathSet : EncodeSet := ['#', '?', '\x7b', '\x7d'] ++ fragmentSet

/-- For user name and password. -/
def userInfoSet : EncodeSet := ['/', ':', ';', '=', '@', '[', '\\', ']', '^', '|'] ++ pathSet

/-- For one name in a path that is being written. -/
def segmentSet : EncodeSet := ['/', '%', '\\'] ++ pathSet

/-- An upper-case hexadecimal digit. -/
def hexDigit (n : Nat) : Char := Char.ofNat (if n < 10 then 0x30 + n else 0x37 + n)

/-- A byte written by its number. -/
def encodeByte (b : UInt8) : List Char := ['%', hexDigit (b.toNat / 16), hexDigit (b.toNat % 16)]

/-- Encodes a byte sequence for a part of an identifier. -/
def encodeBytes (set : EncodeSet) (bs : List UInt8) : List Char :=
  bs.flatMap fun b =>
    let c := Char.ofNat b.toNat
    if b < 0x20 ∨ 0x7F ≤ b ∨ c ∈ set then encodeByte b else [c]

/-- Encodes a text for a part of an identifier. -/
def encode (set : EncodeSet) (cs : List Char) : List Char := encodeBytes set (Text.toUtf8 cs)

/-- The value of a hexadecimal digit. -/
def hexValue? (c : Char) : Option Nat :=
  if '0' ≤ c ∧ c ≤ '9' then some (c.toNat - 0x30)
  else if 'a' ≤ c ∧ c ≤ 'f' then some (c.toNat - 0x57)
  else if 'A' ≤ c ∧ c ≤ 'F' then some (c.toNat - 0x37)
  else none

/-- The bytes that an encoded text stands for; a percent sign without two digits stands for
itself. -/
def decode : List Char → List UInt8
  | '%' :: a :: b :: cs => match hexValue? a, hexValue? b with
    | some x, some y => UInt8.ofNat (16 * x + y) :: decode cs
    | _, _ => 0x25 :: decode (a :: b :: cs)
  | c :: cs => String.utf8EncodeChar c ++ decode cs
  | [] => []

end SymbolAtlas.Uri
