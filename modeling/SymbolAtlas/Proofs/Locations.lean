import Mathlib.Algebra.Group.Nat.Defs
import SymbolAtlas.Matching.Glyph
import SymbolAtlas.Text.Utf8
import SymbolAtlas.Proofs.DeclarationGrammar
import SymbolAtlas.Proofs.ShortTexts
import SymbolAtlas.Proofs.TermRun

/-!
# Locations lead back to declarations

The location of a declaration is a line and a column, and the scan for the term under a cursor knows
nothing of keywords. Still it finds the declared identifier from each of its columns.

Columns are counted in one of two ways: on a line of ASCII characters the bytes before the place are
counted, on any other line the code units. `countedColumn` does both, and the two counts agree where
both apply, so that the column is the width of the text before the place in either case. All numbers
stay below the size of the text, so that they fit where it fits.

## Main results

* `countedColumn_eq`: the two ways of counting agree.
* `location_resolves`: lines, columns and terms of declarations.
-/

namespace SymbolAtlas

/-! ### Counting columns -/

/-- The column behind the text `before` of a line: the number of its bytes on a line of ASCII
characters, and of its code units on any other. -/
def countedColumn (line before : List Char) : Nat :=
  if Matching.isAscii line then (Text.toUtf8 before).length else Text.unitCount before

/-- An ASCII text has one byte per code unit. -/
theorem length_toUtf8_of_isAscii {cs : List Char} (h : ∀ c ∈ cs, c.toNat < 0x80) :
    (Text.toUtf8 cs).length = Text.unitCount cs := by
  induction cs with
  | nil => rfl
  | cons c cs ih =>
      obtain ⟨hc, hcs⟩ := List.forall_mem_cons.mp h
      have hbyte : c.utf8Size = 1 :=
        Char.utf8Size_eq_one_iff.mpr (UInt32.le_iff_toNat_le.mpr (Nat.le_of_lt_succ hc))
      have hwidth : Text.unitWidth c = 1 := if_pos (by omega)
      rw [Text.unitCount, hwidth, ← ih hcs, Text.toUtf8, List.flatMap_cons, List.length_append,
        String.length_utf8EncodeChar, hbyte, Text.toUtf8]

/-- **Both ways of counting** give the width of the text before the place. -/
theorem countedColumn_eq (before after : List Char) :
    countedColumn (before ++ after) before = Text.unitCount before := by
  rw [countedColumn]
  split
  next hascii =>
    refine length_toUtf8_of_isAscii fun c hc => ?_
    exact of_decide_eq_true (List.all_eq_true.mp hascii c (List.mem_append_left after hc))
  next => rfl

/-! ### Locations -/

/-- **Every location leads back to its declaration.** In a text of less than `2 ^ 32` code units a
declaration is located where it stands, its line exists, and from each column of its identifier the
scan finds the identifier with its key, its first and its last column. The column of the declaration
is what is counted for the start of its keyword, in bytes or in code units, and the keyword and a
space. All of these numbers are less than `2 ^ 32`. -/
theorem location_resolves (f : FileEntry)
    (hsize : Text.unitCount f.contents.toList < 2 ^ 32) {d : Declaration}
    (hd : d ∈ f.declarations) :
    d.location = d.position ∧
      d.position.line < 2 ^ 32 ∧ d.position.character + d.identifier.length < 2 ^ 32 ∧
      ∃ line, f.line? d.position.line = some line ∧
        (∃ k ∈ keywords, ∃ before after,
          line = before ++ (k.1 ++ ' ' :: d.identifier.toList) ++ after ∧
            d.position.character = countedColumn line before + k.1.length + 1) ∧
        ∀ c, d.position.character ≤ c → c < d.position.character + d.identifier.length →
          (Term.scan line c).raw = d.identifier ∧ (Term.scan line c).key = d.key ∧
            (Term.scan line c).first = d.position.character ∧
            (Term.scan line c).last = d.position.character + d.identifier.length - 1 := by
  obtain ⟨-, k, hk, line, hline, hdecl⟩ := FileEntry.mem_declarations hd
  have hplain := unitCount_keyword hk
  have hlength : d.identifier.toList.length = d.identifier.length := String.length_toList
  have hshort : f.Short := hsize
  refine ⟨hshort.location_eq hd, Nat.lt_of_le_of_lt (FileEntry.line_le_unitCount hline) hsize, ?_,
    line, hline, ?_, ?_⟩
  · have hend := hdecl.column_add_length_le hplain
    have hwidth := FileEntry.unitCount_line_le hline
    omega
  · obtain ⟨before, after, hsplit, hcolumn, -⟩ := hdecl
    refine ⟨k, hk, before, after, hsplit, ?_⟩
    rw [hcolumn, hsplit, List.append_assoc, countedColumn_eq]
  · intro c hleft hright
    have hscan : Term.scan line c = ⟨d.identifier, d.position.character,
        d.position.character + d.identifier.length - 1⟩ := by
      have hrun := hdecl.scan_eq hplain hleft (hlength ▸ hright)
      rwa [String.ofList_toList, hlength] at hrun
    rw [hscan]
    exact ⟨rfl, rfl, rfl, rfl⟩

/-- On the second line of a text an identifier stands between characters beyond ASCII, the first of
which is two units wide. The scan from its last column finds it. -/
theorem location_resolves_wide :
    let f : FileEntry := ⟨⟨"file:///a"⟩, "a", "x\n𝒳é def ab_1é"⟩
    let d : Declaration := ⟨"ab_1", .function, f.source, ⟨1, 8⟩⟩
    d ∈ f.declarations ∧ ∃ line, f.line? 1 = some line ∧ (Term.scan line 11).raw = "ab_1" ∧
      (Term.scan line 11).first = 8 ∧ (Term.scan line 11).last = 11 := by
  intro f d
  have hk : (['d', 'e', 'f'], Kind.function) ∈ keywords := by decide
  have hd : d ∈ f.declarations := by
    have hreported : f.declarationsOf ['d', 'e', 'f'] .function = f.reported ['d', 'e', 'f'] _ :=
      f.declarationsOf_eq_reported (unitCount_keyword hk) .function
    have hmem : d ∈ f.declarationsOf ['d', 'e', 'f'] .function := by
      rw [hreported]
      decide
    exact List.mem_flatMap.mpr ⟨_, hk, hmem⟩
  obtain ⟨-, -, -, line, hline, -, hscan⟩ := location_resolves f (by decide) hd
  obtain ⟨hraw, -, hfirst, hlast⟩ := hscan 11 (by decide) (by decide)
  exact ⟨hd, line, hline, hraw, hfirst, hlast.trans (by decide)⟩

end SymbolAtlas
