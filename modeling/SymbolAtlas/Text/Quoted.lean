import SymbolAtlas.Text.Printable

/-!
# Quoted text

Text between double quotes, for messages: quotes and backslashes are escaped, the usual line
controls have short escapes, and whatever could not be seen, or would join the character before
it, is written by its number.
-/

namespace SymbolAtlas.Text

/-- The number of a character as an escape, in lower-case hexadecimal digits. -/
def numberEscape (c : Char) : List Char :=
  ['\\', 'u', '\x7b'] ++ Nat.toDigits 16 c.toNat ++ ['\x7d']

/-- How a character is written between quotes. -/
def escapeChar (c : Char) : List Char :=
  if c = '"' then ['\\', '"']
  else if c = '\\' then ['\\', '\\']
  else if c = '\n' then ['\\', 'n']
  else if c = '\r' then ['\\', 'r']
  else if c = '\t' then ['\\', 't']
  else if c.toNat = 0 then ['\\', '0']
  else if isAttaching c || !isPrintable c then numberEscape c
  else [c]

/-- The text between double quotes. -/
def quoted (s : String) : String :=
  String.ofList ('"' :: s.toList.flatMap escapeChar ++ ['"'])

end SymbolAtlas.Text
