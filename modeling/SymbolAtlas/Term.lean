import SymbolAtlas.Declaration
import SymbolAtlas.Text.Units

/-!
# The term under a cursor

Columns count UTF-16 units. Only ASCII letters, digits and the underscore make up a term, so a term
takes one unit per character, and a half of a surrogate pair is never part of one.
-/

namespace SymbolAtlas

/-- A character that identifiers consist of. -/
def isTermChar (c : Char) : Bool := c.isAlphanum || c == '_'

/-- A UTF-16 unit that stands for a character of identifiers. -/
def isTermUnit (u : Nat) : Bool := u < 0x80 && isTermChar (Char.ofNat u)

/-- The identifier under a cursor, with the columns of its first and its last character. -/
structure Term where
  raw : String
  first : Nat
  last : Nat
  deriving DecidableEq, Repr, Inhabited

namespace Term

/-- What a cursor finds that stands on no identifier. -/
def nothingAt (character : Nat) : Term := ⟨"", character, character⟩

/-- There is no identifier under the cursor. -/
def isEmpty (t : Term) : Bool := t.raw.isEmpty

/-- The key to look the term up with. -/
def key (t : Term) : String := symbolKey t.raw

/-- The column lies within the term. -/
def covers (t : Term) (character : Nat) : Bool := t.first ≤ character && character ≤ t.last

/-- The longest run of identifier units around the column `character` of a line. -/
def scan (line : List Char) (character : Nat) : Term :=
  let us := Text.units line
  match us[character]? with
  | none => nothingAt character
  | some u =>
    if isTermUnit u then
      let before := ((us.take character).reverse.takeWhile isTermUnit).reverse
      let after := (us.drop (character + 1)).takeWhile isTermUnit
      { raw := String.ofList ((before ++ u :: after).map Char.ofNat)
        first := character - before.length
        last := character + after.length }
    else nothingAt character

end Term

end SymbolAtlas
