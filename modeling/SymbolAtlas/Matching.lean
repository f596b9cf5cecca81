import SymbolAtlas.Matching.Glyph

/-!
# Matching a query against a name

A query matches a name when its characters occur in the name in order. `align?` chooses one such
occurrence: where several are possible, the one with the best score, which favours word starts and
consecutive characters and charges for gaps. Names too long for the score table fall back on the
first occurrence that closes earliest, tightened from its end.
-/

namespace SymbolAtlas.Matching

/-- The leftmost occurrence of the needle: each character at the first place after the one
before. -/
def leftmost? : List Char → List Glyph → Option (List Nat)
  | [], _ => some []
  | _ :: _, [] => none
  | c :: cs, g :: gs =>
    if g.char = c then (leftmost? cs gs).map (g.position :: ·) else leftmost? (c :: cs) gs

/-! ### The score table -/

/-- The best occurrence of a beginning of the needle that ends at one place. -/
structure Cell where
  score : Nat
  /-- The bonus that a run of consecutive matches carries on. -/
  run : Nat
  /-- The matched positions, last one first. -/
  path : List Nat
  deriving Repr

/-- The best occurrence of a beginning of the needle that ended some places ago. -/
structure Gap where
  score : Nat
  path : List Nat
  deriving Repr

/-- The points for a matched character. -/
def matchPoints : Nat := 16

/-- The row of the first character: a word start counts twice here. -/
def firstRow (c : Char) (gs : List Glyph) : List (Option Cell) :=
  gs.map fun g =>
    if g.char = c then some ⟨2 * g.bonus + matchPoints, g.bonus, [g.position]⟩ else none

/-- The gap one place further: it opens after the previous cell or grows by one. -/
def Gap.advance (gap : Option Gap) (prev : Option Cell) : Option Gap :=
  let opened := match prev with
    | none => 0
    | some cell => cell.score - 3
  let grown := match gap with
    | none => 0
    | some g => g.score - 1
  match prev, gap with
  | some cell, _ =>
    if grown < opened then some ⟨opened, cell.path⟩ else gap.map fun g => ⟨grown, g.path⟩
  | none, some g => some ⟨grown, g.path⟩
  | none, none => none

/-- The cell that matches the next character at the glyph `g`: right after the cell `prev`, or
after a gap. -/
def extend (g : Glyph) (prev : Option Cell) (gap : Option Gap) : Option Cell :=
  match prev, gap with
  | none, none => none
  | none, some gap => some ⟨gap.score + g.bonus + matchPoints, g.bonus, g.position :: gap.path⟩
  | some cell, gap =>
    let base := max cell.run 4
    let run := if 8 ≤ g.bonus ∧ base < g.bonus then g.bonus else base
    let joined := cell.score + max run g.bonus
    match gap with
    | none => some ⟨joined + matchPoints, run, g.position :: cell.path⟩
    | some gap =>
      let jumped := gap.score + g.bonus
      if jumped < joined then some ⟨joined + matchPoints, run, g.position :: cell.path⟩
      else some ⟨jumped + matchPoints, g.bonus, g.position :: gap.path⟩

/-- The row of the next character `c`. The row before and the glyphs run one place apart: each
glyph stands right after the place of its cell. -/
def nextRow (c : Char) (prev : Option Cell) (gap : Option Gap) :
    List (Option Cell) → List Glyph → List (Option Cell)
  | cell :: cells, g :: gs =>
    let gap' := Gap.advance gap prev
    let next := if g.char = c then extend g cell gap' else none
    next :: nextRow c cell gap' cells gs
  | _, _ => []

/-- The row of the last character of the needle. -/
def lastRow : List (Option Cell) → List Char → List Glyph → List (Option Cell)
  | row, [], _ => row
  | row, c :: cs, gs => lastRow (nextRow c none none row gs) cs (gs.drop 1)

/-- The last of the cells with the greatest score. -/
def best (row : List (Option Cell)) : Option Cell :=
  row.foldl (fun acc cell => match acc, cell with
    | none, c => c
    | some a, none => some a
    | some a, some c => if a.score ≤ c.score then some c else some a) none

/-- The occurrence with the best score within a window of glyphs. -/
def optimal? (cs : List Char) (window : List Glyph) : Option (List Nat) :=
  match cs with
  | [] => some []
  | c :: rest =>
    let width := window.length + 1 - cs.length
    let row := lastRow (firstRow c (window.take width)) rest (window.drop 1)
    (best row).map (·.path.reverse)

/-! ### Choosing an occurrence -/

/-- The least multiple of `unit` that is not below `n`. -/
def roundUp (unit n : Nat) : Nat := (n + unit - 1) / unit * unit

/-- The table for a window of `width` glyphs of `glyphBytes` bytes each and a needle of `count`
characters would not fit. -/
def tooLarge (glyphBytes width count : Nat) : Bool :=
  let columns := width + 1 - count
  let size := roundUp 8 (roundUp 2 ((glyphBytes + 1) * width) + 2 * count) + 8 * columns
    + columns * count
  102400 < width * count || 65535 < width || 2048 < count || 133120 < size

/-- The glyphs from the position `first` up to and including the position `last`. -/
def window (first last : Nat) (gs : List Glyph) : List Glyph :=
  (gs.drop first).take (last + 1 - first)

/-- The last place of a character. -/
def lastPlace? (c : Char) (gs : List Glyph) : Option Nat :=
  (gs.reverse.find? fun g => g.char == c).map (·.position)

/-- The occurrence that ends where the leftmost one ends and starts as late as possible. -/
def tightened? (cs : List Char) (first last : Nat) (gs : List Glyph) : Option (List Nat) := do
  let back ← leftmost? cs.reverse (window first last gs).reverse
  leftmost? cs (window (back.getLastD first) last gs)

/-- The first glyph with the greatest bonus. -/
def firstBest (gs : List Glyph) : Option Glyph :=
  gs.foldl (fun acc g => match acc with
    | none => some g
    | some a => if a.bonus < g.bonus then some g else some a) none

/-- Bonuses of the places of one character in a name beyond ASCII: each place is seen after the
place before it, and the first one after the glyph that precedes it. -/
def chained (prev : CharClass) : List Glyph → List Glyph
  | [] => []
  | g :: gs => { g with bonus := bonus prev g.cls } :: chained g.cls gs

/-- The best place of a single character. -/
def single? (ascii : Bool) (c : Char) (gs : List Glyph) : Option Nat :=
  let places := gs.filter fun g => g.char == c
  let places := if ascii then places
    else chained (((gs.takeWhile fun g => g.char != c).getLast?.map (·.cls)).getD .blank) places
  (firstBest places).map (·.position)

/-- The positions at which a needle matches the glyphs of a name. `ascii` says that the name is
ASCII. -/
def positions? (ascii : Bool) (cs : List Char) (gs : List Glyph) : Option (List Nat) :=
  if gs.length < cs.length then none
  else if cs.length = gs.length then
    if gs.map (·.char) = cs then some (gs.map (·.position)) else none
  else match cs with
    | [] => none
    | [c] => (single? ascii c gs).map ([·])
    | first :: rest => do
      let found ← leftmost? cs gs
      let start := found.headD 0
      let finish ← lastPlace? (rest.getLastD first) gs
      let frame := window start finish gs
      if frame.length = cs.length then some found
      else if tooLarge (if ascii then 1 else 4) frame.length cs.length then
        tightened? cs start (found.getLastD start) gs
      else optimal? cs frame

/-- The positions of a query in lower case within a name. A query beyond ASCII never matches an
ASCII name. -/
def align? (query name : List Char) : Option (List Nat) :=
  if isAscii name && !isAscii query then none
  else positions? (isAscii name) (needle query) (glyphs name)

end SymbolAtlas.Matching
