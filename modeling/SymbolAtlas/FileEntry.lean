import SymbolAtlas.Declaration
import SymbolAtlas.Text.Lines

/-!
# Files

A file as the index sees it: where it is, what it is called in its workspace, and its full text.
-/

namespace SymbolAtlas

/-- A file with its full, current text. -/
structure FileEntry where
  uri : Uri
  relativePath : String
  contents : String
  deriving DecidableEq, Repr, Inhabited

namespace FileEntry

/-- The file without its text. -/
def source (f : FileEntry) : SourceFile := ⟨f.uri, f.relativePath⟩

/-- The lines of the file. -/
def lines (f : FileEntry) : List (List Char) := Text.lines f.contents

/-- The text of a zero-based line. -/
def line? (f : FileEntry) (n : Nat) : Option (List Char) := f.lines[n]?

end FileEntry

end SymbolAtlas
