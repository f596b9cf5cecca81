import SymbolAtlas.Disk.Ignore
import SymbolAtlas.Disk.Tree

/-!
# Walks

A walk lists the files below a directory. It passes over entries that ignore rules leave out and
over hidden entries that no rule takes back in; what lies below a directory that is passed over is
not looked at. Rules are found in the directory itself, in those below it and in those that hold it.
-/

namespace SymbolAtlas.Disk

/-- The rules of a directory. -/
structure Scope where
  /-- The names that lead from the directory of the rules down to the one that is listed. -/
  down : List Name
  ignore : List Rule
  gitIgnore : List Rule
  gitExclude : List Rule

namespace Scope

/-- The rules of the file below the given names. -/
def rulesIn (node : Node) (names : List String) : List Rule :=
  match node.content? (names.map Name.ofString) with
  | some content => Rule.ofFile content
  | none => []

/-- The rules that a directory holds, `down` being the names that lead on from it. -/
def of (node : Node) (down : List Name) : Scope where
  down
  ignore := rulesIn node [".ignore"]
  gitIgnore := rulesIn node [".gitignore"]
  gitExclude := rulesIn node [".git", "info", "exclude"]

/-- The rules seen from an entry of the listed directory. -/
def into (s : Scope) (n : Name) : Scope := { s with down := s.down ++ [n] }

/-- What the nearest directory that says anything says about an entry. -/
def verdictOf (rules : Scope → List Rule) (scopes : List Scope) (n : Name)
    (isDirectory : Bool) : Option Verdict :=
  scopes.findSome? fun s =>
    Rule.verdict? (rules s) (Text.joinWith slash (s.down ++ [n])) isDirectory

/-- What the rules say about an entry. Rules for all tools come before those of a repository, and
those kept with the files before the ones inside the repository. -/
def verdict? (scopes : List Scope) (n : Name) (isDirectory : Bool) : Option Verdict :=
  (verdictOf ignore scopes n isDirectory).or
    ((verdictOf gitIgnore scopes n isDirectory).or (verdictOf gitExclude scopes n isDirectory))

/-- The entry is listed. -/
def lists (scopes : List Scope) (n : Name) (isDirectory : Bool) : Bool :=
  match verdict? scopes n isDirectory with
  | some .ignored => false
  | some .kept => true
  | none => n.head? != some 0x2E

/-- The scopes of the directories that hold a place, the nearest first. -/
def holding (down : List Name) : List (Name × Node) → List Scope
  | [] => []
  | (n, node) :: above => of node (n :: down) :: holding (n :: down) above

end Scope

mutual

/-- The files at or below a node with the given path; `scopes` are those of the directories that
hold it, the nearest first. -/
def Node.walk (path : Path) (scopes : List Scope) : Node → List Path
  | .file _ => [path]
  | .directory entries =>
    walkEntries path (Scope.of (.directory entries) [] :: scopes) entries

/-- The files at or below the entries of a directory. -/
def walkEntries (path : Path) (scopes : List Scope) : List (Name × Node) → List Path
  | [] => []
  | (n, node) :: entries =>
    let here :=
      if Scope.lists scopes n node.isDirectory then
        node.walk (path.child n) (scopes.map (·.into n))
      else []
    here ++ walkEntries path scopes entries

end

/-- The files at or below a place, which itself is never passed over. -/
def Place.walk (p : Place) (path : Path) : List Path :=
  p.node.walk path (Scope.holding [] p.above)

end SymbolAtlas.Disk
