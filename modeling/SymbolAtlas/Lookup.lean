import SymbolAtlas.FileStore
import SymbolAtlas.Index

/-!
# Declarations for a position

The term at a position of a file, looked up in the index.
-/

namespace SymbolAtlas

/-- The declarations named like the term at a position, that position's own one left out. -/
def declarationsAt (index : SymbolIndex) (store : FileStore) (p : Provider) (u : Uri)
    (position : Position) : Fetched (Except QueryError (List Declaration)) :=
  let line := store.line p u position.line
  let value := line.value.map fun text =>
    index.named u position.line (Term.scan text position.character)
  { line with value }

end SymbolAtlas
