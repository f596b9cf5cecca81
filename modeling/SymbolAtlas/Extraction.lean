import SymbolAtlas.FileEntry
import SymbolAtlas.Term

/-!
# Finding declarations

A declaration is recognised line by line: a keyword, one space, and an identifier of at least two
characters that starts with a letter. Nothing is required before the keyword, so declarations in
comments are found as well, and `class Foo` inside `subclass Foo`. On each line the occurrences of
one keyword are picked from left to right; one that starts inside the previous pick is passed over.
-/

namespace SymbolAtlas

/-- The keywords that introduce declarations, in the order in which they are looked for. -/
def keywords : List (List Char × Kind) := [
  (['c', 'l', 'a', 's', 's'], .classLike),
  (['t', 'r', 'a', 'i', 't'], .interface),
  (['o', 'b', 'j', 'e', 'c', 't'], .classLike),
  (['v', 'a', 'l'], .variable),
  (['d', 'e', 'f'], .function),
  (['t', 'y', 'p', 'e'], .typeName)]

/-- The identifier at the start of a text: a letter and at least one more character, as long as
possible. -/
def identifier? : List Char → Option (List Char)
  | c :: d :: cs =>
    if c.isAlpha && isTermChar d then some (c :: d :: cs.takeWhile isTermChar) else none
  | _ => none

/-- The identifier that the keyword declares at the start of a text. -/
def declared? (keyword : List Char) (cs : List Char) : Option (List Char) :=
  if (keyword ++ [' ']).isPrefixOf cs then identifier? (cs.drop (keyword.length + 1)) else none

/-- The identifiers that a keyword declares on the rest of a line, with their columns. `column` is
where the rest starts. -/
def picks (keyword : List Char) (column : Nat) (cs : List Char) : List (Nat × List Char) :=
  match cs with
  | [] => []
  | c :: rest =>
    match declared? keyword (c :: rest) with
    | some identifier =>
      let start := column + keyword.length + 1
      (start, identifier) ::
        picks keyword (start + identifier.length)
          (rest.drop (keyword.length + identifier.length))
    | none => picks keyword (column + Text.unitWidth c) rest
termination_by cs.length
decreasing_by
  · simp only [List.length_drop, List.length_cons]; omega
  · simp

namespace FileEntry

/-- The declarations of one keyword, line by line. -/
def declarationsOf (f : FileEntry) (keyword : List Char) (kind : Kind) : List Declaration :=
  f.lines.zipIdx.flatMap fun (line, n) =>
    (picks keyword 0 line).map fun (column, identifier) =>
      ⟨String.ofList identifier, kind, f.source, ⟨n, column⟩⟩

/-- The declarations of a file: keyword by keyword, each line by line. -/
def declarations (f : FileEntry) : List Declaration :=
  keywords.flatMap fun (keyword, kind) => f.declarationsOf keyword kind

end FileEntry

/-- The declarations of several files, in the order of the files. -/
def declarationsIn (files : List FileEntry) : List Declaration :=
  files.flatMap FileEntry.declarations

end SymbolAtlas
