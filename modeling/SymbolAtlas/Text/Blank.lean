import SymbolAtlas.Text.CodeSet

/-!
# White space

The characters that trimming removes. The zero-width space, the byte order mark and the four
information separators are not among them.
-/

namespace SymbolAtlas.Text

/-- Code points with the property White_Space. -/
def blankSet : CodeSet := [
  ⟨0x9, 0xD, 1⟩, ⟨0x20, 0x20, 1⟩, ⟨0x85, 0x85, 1⟩, ⟨0xA0, 0xA0, 1⟩, ⟨0x1680, 0x1680, 1⟩,
  ⟨0x2000, 0x200A, 1⟩, ⟨0x2028, 0x2029, 1⟩, ⟨0x202F, 0x202F, 1⟩, ⟨0x205F, 0x205F, 1⟩,
  ⟨0x3000, 0x3000, 1⟩]

/-- White space in the sense of the Unicode property. -/
def isBlank (c : Char) : Bool := blankSet.has c

/-- The text without the white space before it. -/
def trimStart (cs : List Char) : List Char := cs.dropWhile isBlank

/-- The text without the white space around it. -/
def trim (cs : List Char) : List Char := (trimStart (trimStart cs).reverse).reverse

end SymbolAtlas.Text
