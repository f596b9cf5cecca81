import SymbolAtlas.Text.Blank
import SymbolAtlas.Text.Case
import SymbolAtlas.Text.Cluster
import SymbolAtlas.Text.Letter

/-!
# Glyphs of a name

Before a name is compared with a query it is laid out as a list of glyphs: the position, the
character that takes part in the comparison, and the bonus that a match at this place earns. A
place earns a bonus when a reader would see a word start there: after a space or a delimiter, at
the hump of a camel-case name, at a first digit.
-/

namespace SymbolAtlas.Matching

/-- What a character looks like to someone who reads a name in words. -/
inductive CharClass where
  | blank | nonWord | delimiter | lower | upper | letter | number
  deriving DecidableEq, Repr

/-- The class of a character. -/
def CharClass.of (c : Char) : CharClass :=
  if c.toNat < 0x80 then
    if c.isLower then .lower
    else if c.isUpper then .upper
    else if c.isDigit then .number
    else if c == ' ' || c == '\t' || c == '\n' || c == '\x0c' || c == '\r' then .blank
    else if c == '/' || c == ',' || c == ':' || c == ';' || c == '|' then .delimiter
    else .nonWord
  else if Text.isLowercase c then .lower
  else if (Text.fold? c).isSome then .upper
  else if Text.isNumeric c then .number
  else if Text.isAlphabetic c then .letter
  else if Text.isBlank c then .blank
  else .nonWord

/-- A class of characters that words consist of. -/
def CharClass.isWord : CharClass → Bool
  | .lower | .upper | .letter | .number => true
  | .blank | .nonWord | .delimiter => false

/-- The bonus of a place between two classes. -/
def bonus (prev cur : CharClass) : Nat :=
  if cur.isWord && prev == .blank then 10
  else if cur.isWord && prev == .delimiter then 9
  else if cur.isWord && prev == .nonWord then 8
  else if (prev == .lower && cur == .upper) || (prev != .number && cur == .number) then 5
  else match cur with
    | .blank => 10
    | .nonWord => 8
    | _ => 0

/-- A place of a name that can match a character of a query. -/
structure Glyph where
  position : Nat
  char : Char
  cls : CharClass
  bonus : Nat
  deriving DecidableEq, Repr

/-- Lays out characters from the given position, after a character of the class `prev`. -/
def glyphsFrom (prev : CharClass) (position : Nat) : List Char → List Glyph
  | [] => []
  | c :: cs =>
    let cls := CharClass.of c
    ⟨position, Text.fold c, cls, bonus prev cls⟩ :: glyphsFrom cls (position + 1) cs

/-- The text is ASCII. -/
def isAscii (cs : List Char) : Bool := cs.all fun c => c.toNat < 0x80

/-- The characters of a name or a query that take part in the comparison: all of an ASCII text,
otherwise the heads of its clusters. -/
def visible (cs : List Char) : List Char := if isAscii cs then cs else Text.clusterHeads cs

/-- The layout of a name. The start of a name counts as the start of a word. -/
def glyphs (name : List Char) : List Glyph := glyphsFrom .blank 0 (visible name)

/-- The characters of a query that is in lower case already. -/
def needle (query : List Char) : List Char :=
  if isAscii query then query else (Text.clusterHeads query).map Text.fold

end SymbolAtlas.Matching
