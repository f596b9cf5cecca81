import SymbolAtlas.Disk.Walk
import SymbolAtlas.Provider

/-!
# Files on disk

A provider that reads the folders of a workspace. All files are those below the folders whose names
have one of the endings, in the order of their paths; a file below two folders is listed for each.
Files that are missing or do not spell text are passed over.
-/

namespace SymbolAtlas.Disk

/-- The folders of a workspace in a tree of files. -/
structure Workspace where
  tree : FileTree
  roots : List Path
  /-- Endings of the names of source files. -/
  extensions : List String

namespace Workspace

/-- The name is some bytes, a point and the ending. -/
def hasExtension (n : Name) (extension : String) : Bool :=
  let ending := 0x2E :: Name.ofString extension
  ending.length < n.length && ending.isSuffixOf n

/-- The path is that of a source file. -/
def isSource (w : Workspace) (p : Path) : Bool :=
  match p.name? with
  | some n => (Text.ofUtf8? n).isSome && w.extensions.any (hasExtension n)
  | none => false

/-- The name of a file in the workspace: its path below the first folder that holds it. -/
def relativePath (w : Workspace) (p : Path) : String :=
  let path := (w.roots.findSome? p.below?).getD p
  String.ofList (path.text.toList.map fun c => if c = '\\' then '/' else c)

/-- The file at a path. -/
def read? (w : Workspace) (p : Path) : Option FileEntry := do
  let uri ← p.toUri?
  let text ← w.tree.readText? p
  return ⟨uri, w.relativePath p, String.ofList text⟩

/-- The root that stands for standard input and holds no files. -/
def standardInput : Path := .ofString "-"

/-- The source files below a folder. -/
def pathsBelow (w : Workspace) (root : Path) : Except ProviderError (List Path) :=
  if root = standardInput then .ok []
  else match w.tree.place root with
    | .ok place => .ok ((place.walk root).filter w.isSource)
    | .error fault =>
      let name := root.text
      .error (.walk (name ++ ": IO error for operation on " ++ name ++ ": " ++ fault.message))

/-- The source files below all folders, in order. -/
def paths (w : Workspace) : Except ProviderError (List Path) := do
  return (← w.roots.mapM w.pathsBelow).flatten.mergeSort Path.le

/-- The path that an identifier names. -/
def pathOf (u : Uri) : Except ProviderError Path :=
  match Path.ofUri? u with
  | some p => .ok p
  | none => .error (.invalidUri u)

/-- The provider that answers from the tree. -/
def provider (w : Workspace) : Provider where
  files uris := do return (← uris.mapM pathOf).filterMap w.read?
  allFiles := do return (← w.paths).filterMap w.read?
  relativePath u := do return w.relativePath (← pathOf u)

end Workspace

end SymbolAtlas.Disk
