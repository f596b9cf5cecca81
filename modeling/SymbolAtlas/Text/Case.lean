import SymbolAtlas.Text.Case.Table

/-!
# Letter case

Lower-casing of whole texts and simple case folding of single characters. Lower-casing knows the
two places where one character is not enough: capital I with a dot above has a form of two
characters, and a capital sigma that ends a word has a form of its own.
-/

namespace SymbolAtlas.Text

/-- The lower-case form of one character, by itself. -/
def lowerChar (c : Char) : Char :=
  if c.toNat < 0x80 then c.toLower else (shift? lowerShifts c).getD c

/-- The first character that the sigma rule does not look through is a cased letter. -/
def meetsCased (cs : List Char) : Bool :=
  match cs.dropWhile caseIgnorableSet.has with
  | [] => false
  | c :: _ => casedSet.has c

/-- Lower-cases the rest of a text; `before` is what precedes it, nearest character first. -/
def lowerFrom (before : List Char) : List Char → List Char
  | [] => []
  | c :: cs =>
    let form :=
      if c = 'Σ' then [if meetsCased before && !meetsCased cs then 'ς' else 'σ']
      else if c = 'İ' then ['i', '\u0307']
      else [lowerChar c]
    form ++ lowerFrom (c :: before) cs

/-- The lower-case form of a text. -/
def lower (cs : List Char) : List Char := lowerFrom [] cs

/-- The lower-case form of a text. -/
def lowerString (s : String) : String := String.ofList (lower s.toList)

/-- The simple case folding of a character that has one. -/
def fold? (c : Char) : Option Char :=
  if c.toNat < 0x80 then if c.isUpper then some c.toLower else none
  else match shift? foldShifts c with
    | some f => some f
    | none => if unfolded.has c then none else shift? lowerShifts c

/-- The simple case folding of a character, itself if it has none. -/
def fold (c : Char) : Char := (fold? c).getD c

end SymbolAtlas.Text
