import SymbolAtlas.Proofs.Occurrence

/-!
# Texts that positions fit into

A location keeps a line and a column in 32 bits each. The number of a line is not greater than the
number of line feeds before it, and a declared identifier ends on its line, so both numbers stay
below the size of the text. In a text of less than `2 ^ 32` code units every location is therefore
the position of its declaration.

## Main results

* `DeclaresAt.column_add_length_le`, `FileEntry.line_le_unitCount`: the size of the text bounds the
  positions.
* `FileEntry.Short.location_eq`, `location_eq_of_mem_declarationsIn`: the locations in short texts.
-/

namespace SymbolAtlas

/-- A declared identifier ends on its line. -/
theorem DeclaresAt.column_add_length_le {keyword line identifier : List Char} {column : Nat}
    (hplain : Text.unitCount keyword = keyword.length)
    (h : DeclaresAt keyword line column identifier) :
    column + identifier.length ≤ Text.unitCount line := by
  obtain ⟨before, after, rfl, rfl, hident⟩ := h
  rw [Text.unitCount_append, Text.unitCount_append,
    unitCount_declaration hplain (identifier_of_found hident).2.1]
  omega

namespace FileEntry

variable {f : FileEntry}

/-- A line is not wider than the text. -/
theorem unitCount_line_le {l : Nat} {line : List Char} (h : f.line? l = some line) :
    Text.unitCount line ≤ Text.unitCount f.contents.toList :=
  Text.unitCount_le_of_sublist (Text.sublist_of_mem_splitOn (List.mem_of_getElem? h))

/-- There are no more line feeds than code units. -/
theorem line_le_unitCount {l : Nat} {line : List Char} (h : f.line? l = some line) :
    l ≤ Text.unitCount f.contents.toList := by
  have hlt : l < f.lines.length := (List.getElem?_eq_some_iff.mp h).1
  have hlines : f.lines.length ≤ f.contents.toList.length + 1 := Text.length_splitOn_le _ _
  have hunits := Text.length_le_unitCount f.contents.toList
  omega

/-- The text has less than `2 ^ 32` code units. -/
def Short (f : FileEntry) : Prop := Text.unitCount f.contents.toList < Number.words32

instance (f : FileEntry) : Decidable f.Short := inferInstanceAs (Decidable (_ < _))

/-- **In a short text every location is a position**: nothing is cut off. -/
theorem Short.location_eq (h : f.Short) {d : Declaration} (hd : d ∈ f.declarations) :
    d.location = d.position := by
  obtain ⟨-, k, hk, line, hline, hdecl⟩ := mem_declarations hd
  have hend := hdecl.column_add_length_le (unitCount_keyword hk)
  have hwidth := unitCount_line_le hline
  have hfeeds := line_le_unitCount hline
  rw [Short] at h
  exact Position.stored_eq_self (Nat.lt_of_le_of_lt hfeeds h)
    (Nat.lt_of_le_of_lt (by omega) h)

end FileEntry

/-- What short texts declare is located where it stands. -/
theorem location_eq_of_mem_declarationsIn {files : List FileEntry} (h : ∀ f ∈ files, f.Short)
    {d : Declaration} (hd : d ∈ declarationsIn files) : d.location = d.position := by
  obtain ⟨f, hf, hmem⟩ := List.mem_flatMap.mp hd
  exact (h f hf).location_eq hmem

end SymbolAtlas
