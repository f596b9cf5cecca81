/-!
# Sets of code points

A property of characters is a table of runs. A run with stride two holds every other code point,
which is how scripts with alternating upper-case and lower-case letters are laid out.
-/

namespace SymbolAtlas.Text

/-- The code points `first`, `first + stride`, ... up to `last`. -/
structure CodeRun where
  first : Nat
  last : Nat
  stride : Nat

/-- The run holds the code point `n`. -/
def CodeRun.has (r : CodeRun) (n : Nat) : Bool :=
  r.first ≤ n && n ≤ r.last && (n - r.first) % r.stride == 0

/-- A finite set of code points, given by its runs. -/
abbrev CodeSet := List CodeRun

/-- The set holds the character `c`. -/
def CodeSet.has (s : CodeSet) (c : Char) : Bool := s.any fun r => r.has c.toNat

/-- A run of code points that all map to the code point at the given distance. -/
structure CodeShift where
  run : CodeRun
  distance : Int

/-- The image of `c` under the first shift whose run holds it. -/
def shift? (shifts : List CodeShift) (c : Char) : Option Char :=
  (shifts.find? fun s => s.run.has c.toNat).map fun s =>
    Char.ofNat ((c.toNat : Int) + s.distance).toNat

end SymbolAtlas.Text
