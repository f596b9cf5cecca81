import SymbolAtlas.Disk.Path

/-!
# Trees of files

A tree holds directories and files and has a current directory, from which relative paths start.
Paths are followed part by part: the way up leads to the directory that holds the current one, and
nothing lies below a file.
-/

namespace SymbolAtlas.Disk

/-- A file with its bytes, or a directory with its entries. -/
inductive Node where
  | file (content : List UInt8)
  | directory (entries : List (Name × Node))
  deriving Inhabited

/-- Why a path leads nowhere. -/
inductive Fault where
  | notFound
  | notDirectory
  deriving DecidableEq, Repr

/-- The text of a fault. -/
def Fault.message : Fault → String
  | .notFound => "No such file or directory (os error 2)"
  | .notDirectory => "Not a directory (os error 20)"

namespace Node

/-- The directory without entries. -/
def empty : Node := .directory []

/-- The entries of a directory; a file has none. -/
def entries : Node → List (Name × Node)
  | .file _ => []
  | .directory entries => entries

/-- The node is a directory. -/
def isDirectory : Node → Bool
  | .file _ => false
  | .directory _ => true

/-- The entry with the given name. -/
def entry? (node : Node) (n : Name) : Option Node :=
  (node.entries.find? fun e => e.1 == n).map (·.2)

/-- The node below the given names. -/
def descend? (node : Node) : List Name → Option Node
  | [] => some node
  | n :: names => (node.entry? n).bind fun child => child.descend? names

/-- The bytes of the file below the given names. -/
def content? (node : Node) (names : List Name) : Option (List UInt8) :=
  match node.descend? names with
  | some (.file content) => some content
  | _ => none

/-- The directory with `child` as the entry of the given name. -/
def setEntry (node : Node) (n : Name) (child : Node) : Node :=
  .directory (node.entries.filter (fun e => e.1 != n) ++ [(n, child)])

/-- The tree with `node` below the given names; missing directories are made. An empty directory
leaves a directory that is there. -/
def put (node : Node) : List Name → Node → Node
  | [], old => if node.isDirectory && node.entries.isEmpty && old.isDirectory then old else node
  | n :: names, old => old.setEntry n (node.put names ((old.entry? n).getD empty))

/-- The tree without what lies below the given names. -/
def remove : List Name → Node → Node
  | [], old => old
  | [n], old => .directory (old.entries.filter fun e => e.1 != n)
  | n :: names, old => match old.entry? n with
    | some child => old.setEntry n (remove names child)
    | none => old

end Node

/-- A node with the directories that hold it, the nearest first. Each comes with the name of the
entry that leads down. -/
structure Place where
  node : Node
  above : List (Name × Node)

namespace Place

/-- Goes down to an entry. -/
def down (p : Place) (n : Name) : Except Fault Place :=
  if p.node.isDirectory then
    match p.node.entry? n with
    | some child => .ok ⟨child, (n, p.node) :: p.above⟩
    | none => .error .notFound
  else .error .notDirectory

/-- Goes up to the directory that holds this one; above the top is the top. -/
def up (p : Place) : Except Fault Place :=
  if p.node.isDirectory then
    match p.above with
    | (_, node) :: above => .ok ⟨node, above⟩
    | [] => .ok p
  else .error .notDirectory

/-- Follows parts of a path. -/
def follow (p : Place) : List Part → Except Fault Place
  | [] => .ok p
  | .root :: parts | .here :: parts => p.follow parts
  | .parent :: parts => p.up.bind fun q => q.follow parts
  | .name n :: parts => (p.down n).bind fun q => q.follow parts

end Place

/-- A tree with its current directory. -/
structure FileTree where
  top : Node
  current : List Name

namespace FileTree

/-- The tree whose only directory, under the given names, is empty and the current one. -/
def emptyAt (names : List Name) : FileTree := ⟨Node.empty.put names .empty, names⟩

/-- Puts a node where relative names lead to. -/
def put (t : FileTree) (names : List Name) (node : Node) : FileTree :=
  { t with top := node.put (t.current ++ names) t.top }

/-- Removes what relative names lead to. -/
def remove (t : FileTree) (names : List Name) : FileTree :=
  { t with top := Node.remove (t.current ++ names) t.top }

/-- Follows a path from the top or from the current directory. -/
def place (t : FileTree) (p : Path) : Except Fault Place := do
  if p.bytes = [] then throw .notFound
  let start := if p.isAbsolute then [] else t.current.map Part.name
  let place ← Place.follow ⟨t.top, []⟩ (start ++ p.parts)
  if p.asksDirectory && !place.node.isDirectory then throw .notDirectory
  return place

/-- The bytes of the file that a path leads to. -/
def read? (t : FileTree) (p : Path) : Option (List UInt8) :=
  match t.place p with
  | .ok ⟨.file content, _⟩ => some content
  | _ => none

/-- The text of the file that a path leads to, if its bytes spell one. -/
def readText? (t : FileTree) (p : Path) : Option (List Char) :=
  (t.read? p).bind Text.ofUtf8?

end FileTree

end SymbolAtlas.Disk
