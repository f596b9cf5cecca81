import SymbolAtlas.Number.Width

/-!
# Paths of keys

A path names a place in the settings: an identifier, then further identifiers after points and
positions in lists in brackets. A negative position counts from the end.
-/

namespace SymbolAtlas.Settings

/-- A step below a value. -/
inductive Step where
  | child (name : String)
  | index (position : Int)
  deriving DecidableEq, Repr

/-- A place in the settings. -/
structure KeyPath where
  root : String
  steps : List Step
  deriving DecidableEq, Repr

/-- Why a text is no path. -/
inductive PathError where
  /-- It does not start with an identifier. -/
  | identifier
  /-- Something else than a point with an identifier or a bracket follows. -/
  | continuation
  /-- A bracket without digits. -/
  | digits
  /-- A position that does not fit in 64 bits. -/
  | range
  deriving DecidableEq, Repr

/-- The word for a failure. -/
def PathError.message : PathError → String
  | .identifier => "IsA"
  | .continuation => "Char"
  | .digits => "Digit"
  | .range => "Map on Result"

namespace KeyPath

/-- Characters of identifiers; blanks are among them. -/
def isIdentifierChar (c : Char) : Bool := c.isAlphanum || c == ' ' || c == '_' || c == '-'

/-- Blanks around a position. -/
def isGap (c : Char) : Bool := c == ' ' || c == '\t'

/-- A position after its opening bracket, and what follows the closing one. -/
def position (cs : List Char) : Except PathError (Int × List Char) :=
  let cs := cs.dropWhile isGap
  let (negative, cs) := match cs with
    | '-' :: rest => (true, rest)
    | _ => (false, cs)
  let digits := cs.takeWhile Char.isDigit
  let n : Int := (digits.foldl (fun n c => 10 * n + (c.toNat - 0x30)) 0 : Nat)
  let n := if negative then -n else n
  if digits.isEmpty then .error .digits
  else if !Number.isSigned64 n then .error .range
  else match (cs.dropWhile Char.isDigit).dropWhile isGap with
    | ']' :: rest => .ok (n, rest)
    | _ => .error .continuation

/-- The steps of a path, one after the other; `fuel` bounds their number. -/
def readSteps (fuel : Nat) (cs : List Char) : Except PathError (List Step) :=
  match fuel, cs with
  | _, [] => .ok []
  | 0, _ => .error .continuation
  | fuel + 1, '.' :: rest =>
    let name := rest.takeWhile isIdentifierChar
    if name.isEmpty then .error .continuation
    else do
      let more ← readSteps fuel (rest.dropWhile isIdentifierChar)
      return .child (String.ofList name) :: more
  | fuel + 1, '[' :: rest => do
    let (n, rest) ← position rest
    return .index n :: (← readSteps fuel rest)
  | _ + 1, _ => .error .continuation

/-- Reads a path. -/
def parse (text : String) : Except PathError KeyPath :=
  let cs := text.toList
  let root := cs.takeWhile isIdentifierChar
  if root.isEmpty then .error .identifier
  else do return ⟨String.ofList root, ← readSteps cs.length (cs.dropWhile isIdentifierChar)⟩

end KeyPath

end SymbolAtlas.Settings
