import SymbolAtlas.Number.Width
import SymbolAtlas.Text.Blank
import SymbolAtlas.Text.Lines

/-!
# Sorting imports

An import group is a run of consecutive lines whose text, white space around it removed, starts
with the word `import` and a space. Each group is sorted by code points, whole lines compared;
every other line, blank ones included, stays where it is and ends the group before it.

An edit keeps the number of its line in 32 bits. In a text of more lines than there are such numbers
a line shares its number with others.
-/

namespace SymbolAtlas

/-- Replaces the whole of a zero-based line. The number of the line is one of 32 bits. -/
structure LineEdit where
  line : Nat
  newText : String
  deriving DecidableEq, Repr, Inhabited

namespace Imports

/-- The text that an import line starts with. -/
def opening : List Char := ['i', 'm', 'p', 'o', 'r', 't', ' ']

/-- The line is an import line. -/
def isImport (line : List Char) : Bool := opening.isPrefixOf (Text.trim line)

/-- A group in ascending order. -/
def sortGroup (group : List (List Char)) : List (List Char) :=
  group.mergeSort fun a b => !decide (b < a)

/-- The lines with every group sorted. -/
def organized (lines : List (List Char)) : List (List Char) :=
  match lines with
  | [] => []
  | line :: rest =>
    if isImport line then
      sortGroup (line :: rest.takeWhile isImport) ++ organized (rest.dropWhile isImport)
    else line :: organized rest
termination_by lines.length
decreasing_by
  · exact Nat.lt_succ_of_le (List.dropWhile_suffix _).length_le
  · simp

/-- The lines at which two listings differ: their numbers, and what the second listing has there. -/
def changes (old new : List (List Char)) : List (Nat × List Char) :=
  (old.zip new).zipIdx.filterMap fun ((before, after), n) =>
    if before = after then none else some (n, after)

/-- The edit of a changed line. What does not fit into the number of its line is cut off. -/
def editOf (change : Nat × List Char) : LineEdit :=
  ⟨change.1 % Number.words32, String.ofList change.2⟩

end Imports

/-- The lines of a text that change when every import group is sorted. -/
def importChanges (contents : String) : List (Nat × List Char) :=
  let lines := Text.lines contents
  Imports.changes lines (Imports.organized lines)

/-- The edits that sort every import group of a text. -/
def importEdits (contents : String) : List LineEdit :=
  (importChanges contents).map Imports.editOf

end SymbolAtlas
