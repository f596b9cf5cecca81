import SymbolAtlas.Imports
import SymbolAtlas.Declaration
import SymbolAtlas.Json

/-!
# What an editor shows

Declarations and edits in the forms that an editor understands: links to hover over, locations to
go to, symbols to list and an action that sorts imports.
-/

namespace SymbolAtlas.Editor

/-- A link to a declaration. Lines count from one, columns from zero; the two blanks at the end
break the line. -/
def link (d : Declaration) : String :=
  let place := toString (d.location.line + 1) ++ "," ++ toString d.location.character
  "[" ++ d.file.relativePath ++ ":" ++ place ++ "](" ++ d.uri.text ++ "#L" ++ place ++ ")  "

/-- Declarations by file, line and column; those at the same place keep their order. -/
def inReadingOrder (ds : List Declaration) : List Declaration := ds.mergeSort Declaration.readingLE

/-- The text to show over a term: one link per declaration. -/
def hoverText? (ds : List Declaration) : Option String :=
  if ds.isEmpty then none else some ("\n".intercalate ((inReadingOrder ds).map link))

/-- A position. -/
def position (line character : Nat) : Json :=
  .obj [("line", .nat line), ("character", .nat character)]

/-- The range between two positions. -/
def range (start finish : Json) : Json := .obj [("start", start), ("end", finish)]

/-- The location of a declaration, as an empty range. -/
def location (d : Declaration) : Json :=
  let place := position d.location.line d.location.character
  .obj [("uri", .str d.uri.text), ("range", range place place)]

/-- A declaration as an item of a symbol list. -/
def symbol (d : Declaration) : Json :=
  .obj [("name", .str d.identifier), ("kind", .nat d.kind.symbolNumber), ("location", location d)]

/-- The kind of the action that sorts imports. -/
def organizeKind : String := "source.organizeImports"

/-- A request that names the kinds it wants gets the action only for its kind or the general one. -/
def wantsOrganize : Option (List String) → Bool
  | none => true
  | some kinds => kinds.any fun kind => kind == "source" || kind == organizeKind

/-- The greatest column, which stands for the end of any line. -/
def lineEnd : Nat := 4294967295

/-- An edit of a whole line. -/
def textEdit (e : LineEdit) : Json :=
  .obj [("range", range (position e.line 0) (position e.line lineEnd)),
    ("newText", .str e.newText)]

/-- The action that applies the edits, if there are any. -/
def organizeAction? (u : Uri) (edits : List LineEdit) : Option Json :=
  if edits.isEmpty then none
  else some (.obj [("title", .str "Organize imports"), ("kind", .str organizeKind),
    ("edit", .obj [("changes", .obj [(u.text, .arr (edits.map textEdit))])])])

end SymbolAtlas.Editor
