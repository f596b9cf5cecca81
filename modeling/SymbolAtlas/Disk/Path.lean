import SymbolAtlas.Uri
import SymbolAtlas.Uri.Percent

/-!
# Paths

A path is the sequence of bytes that a file system is asked with. Two spellings can name the same
place: what counts for comparing paths is their parts, in which empty pieces and points that stand
for the directory itself do not show.
-/

namespace SymbolAtlas.Disk

/-- The name of a file or directory inside its directory. -/
abbrev Name := List UInt8

/-- The bytes of a text, as a name. -/
def Name.ofString (s : String) : Name := Text.toUtf8 s.toList

/-- The byte between the pieces of a path. -/
def slash : UInt8 := 0x2F

/-- A path as it is written. -/
structure Path where
  bytes : List UInt8
  deriving DecidableEq, Repr, Inhabited

/-- A part of a path. -/
inductive Part where
  /-- The top of the tree, which only starts a path. -/
  | root
  /-- The current directory, which only starts a path. -/
  | here
  | parent
  | name (n : Name)
  deriving DecidableEq, Repr

namespace Part

/-- The part that a piece between slashes stands for, if it stands for one. -/
def ofPiece? (piece : List UInt8) : Option Part :=
  if piece = [] ∨ piece = [0x2E] then none
  else if piece = [0x2E, 0x2E] then some .parent
  else some (.name piece)

/-- The bytes of a part. -/
def bytes : Part → List UInt8
  | .root => [slash]
  | .here => [0x2E]
  | .parent => [0x2E, 0x2E]
  | .name n => n

/-- The kinds of parts in their order. -/
def rank : Part → Nat
  | .root => 0
  | .here => 1
  | .parent => 2
  | .name _ => 3

/-- Parts compare by kind, names by their bytes. -/
def before (a b : Part) : Bool := a.rank < b.rank || a.rank == b.rank && decide (a.bytes < b.bytes)

end Part

namespace Path

/-- The path that a text spells. -/
def ofString (s : String) : Path := ⟨Text.toUtf8 s.toList⟩

/-- The text of a path, with replacement characters where it spells none. -/
def text (p : Path) : String := String.ofList (Text.ofUtf8Lossy p.bytes)

/-- The path starts at the top of the tree. -/
def isAbsolute (p : Path) : Bool := p.bytes.head? == some slash

/-- The parts of a path. -/
def parts (p : Path) : List Part :=
  let pieces := Text.splitOn slash p.bytes
  let start := if p.isAbsolute then [Part.root]
    else if pieces.head? = some [0x2E] then [Part.here] else []
  start ++ pieces.filterMap Part.ofPiece?

/-- The spelling says that the path names a directory. -/
def asksDirectory (p : Path) : Bool :=
  match (Text.splitOn slash p.bytes).getLast? with
  | some piece => piece == [] || piece == [0x2E]
  | none => false

/-- The path of an entry of the directory. -/
def child (p : Path) (n : Name) : Path :=
  if p.bytes = [] ∨ p.bytes.getLast? = some slash then ⟨p.bytes ++ n⟩
  else ⟨p.bytes ++ slash :: n⟩

/-- The path that consists of the parts. -/
def ofParts (parts : List Part) : Path := ⟨Text.joinWith slash (parts.map Part.bytes)⟩

/-- The last name of a path, if it does not end on the way up. -/
def name? (p : Path) : Option Name :=
  match p.parts.getLast? with
  | some (.name n) => some n
  | _ => none

/-- The path below a directory that it starts with. Seen from a relative directory an absolute path
stays what it is. -/
def below? (p directory : Path) : Option Path :=
  if directory.parts.isPrefixOf p.parts then
    if directory.isAbsolute = p.isAbsolute then
      some (ofParts (p.parts.drop directory.parts.length))
    else some p
  else none

/-- Lists of parts in dictionary order. -/
def partsLE : List Part → List Part → Bool
  | [], _ => true
  | _ :: _, [] => false
  | a :: as, b :: bs => if a = b then partsLE as bs else a.before b

/-- Paths compare part by part. -/
def le (p q : Path) : Bool := partsLE p.parts q.parts

/-! ### Paths and identifiers -/

/-- An ASCII letter. -/
def isLetter (b : UInt8) : Bool := 0x41 ≤ b && b ≤ 0x5A || 0x61 ≤ b && b ≤ 0x7A

/-- A path that ends in a drive letter names the top of the drive. -/
def closeDrive (bytes : List UInt8) : List UInt8 :=
  match bytes.reverse with
  | mark :: letter :: _ :: _ =>
    if isLetter letter && (mark == 0x3A || mark == 0x7C) then bytes ++ [slash] else bytes
  | _ => bytes

/-- The absolute path with the given encoded names. -/
def ofSegments (segments : List (List Char)) : Path :=
  ⟨closeDrive (segments.flatMap fun segment => slash :: Uri.decode segment)⟩

/-- The path that an identifier names. It names one if it is not opaque and stays on this host. -/
def ofUri? (u : Uri) : Option Path := do
  let segments ← u.segments?
  match u.host? with
  | none => some (ofSegments segments)
  | some host => if host = "localhost".toList then some (ofSegments segments) else none

/-- The identifier of an absolute path. -/
def toUri? (p : Path) : Option Uri :=
  if p.isAbsolute then
    let names := (p.parts.drop 1).map Part.bytes
    let path := names.flatMap fun n => '/' :: Uri.encodeBytes Uri.segmentSet n
    some ⟨"file://" ++ String.ofList (if names.isEmpty then ['/'] else path)⟩
  else none

end Path

end SymbolAtlas.Disk
