import Mathlib.Data.List.Nodup
import SymbolAtlas.Extraction

/-!
# Where declarations stand

`picks` walks a line and jumps over each identifier that it has picked. This module describes what
it finds without the walk: `DeclaresAt keyword line column identifier` says that the line reads the
keyword, one space and the identifier, and that the identifier starts at that column.

A column of a line is the width of the text before it, and widths tell the beginnings of one line
apart. So two keywords that declare something at one column end at the same place, and as no keyword
is the end of another one they are the same. Together with the columns of one keyword being
ascending this gives each declaration of a file a position of its own.

## Main results

* `declaresAt_of_mem_picks`: whatever `picks` finds stands on the line.
* `DeclaresAt.suffix_or_suffix`, `pairwise_keywords`: at most one keyword declares something at a
  column.
* `FileEntry.mem_declarations`: a declaration of a file stands on a line of the file.
* `FileEntry.nodup_positions`: no two declarations of a file share their position.
-/

namespace SymbolAtlas

/-! ### Widths -/

namespace Text

theorem unitWidth_pos (c : Char) : 0 < unitWidth c := by
  rw [unitWidth]
  split <;> omega

@[simp] theorem unitCount_append (cs ds : List Char) :
    unitCount (cs ++ ds) = unitCount cs + unitCount ds := by
  induction cs with
  | nil => simp [unitCount]
  | cons c cs ih => simp [unitCount, ih, Nat.add_assoc]

/-- A text without width is empty. -/
theorem eq_nil_of_unitCount {cs : List Char} (h : unitCount cs = 0) : cs = [] := by
  cases cs with
  | nil => rfl
  | cons c cs =>
      have := unitWidth_pos c
      simp only [unitCount] at h
      omega

/-- Two beginnings of one text that are equally wide are the same. -/
theorem eq_of_unitCount_eq {a b x y : List Char} (htext : a ++ x = b ++ y)
    (hwidth : unitCount a = unitCount b) : a = b := by
  rcases List.append_eq_append_iff.mp htext with ⟨z, rfl, -⟩ | ⟨z, rfl, -⟩
  · rw [unitCount_append] at hwidth
    have hz : unitCount z = 0 := by omega
    rw [eq_nil_of_unitCount hz, List.append_nil]
  · rw [unitCount_append] at hwidth
    have hz : unitCount z = 0 := by omega
    rw [eq_nil_of_unitCount hz, List.append_nil]

/-- A part of a text is not wider than the text. -/
theorem unitCount_le_of_sublist {cs ds : List Char} (h : cs.Sublist ds) :
    unitCount cs ≤ unitCount ds := by
  induction h with
  | slnil => exact Nat.le_refl 0
  | cons c _ ih => exact Nat.le_trans ih (Nat.le_add_left _ _)
  | cons_cons c _ ih => exact Nat.add_le_add_left ih _

/-- Every character has a width. -/
theorem length_le_unitCount (cs : List Char) : cs.length ≤ unitCount cs := by
  induction cs with
  | nil => exact Nat.le_refl 0
  | cons c cs ih =>
      have hc := unitWidth_pos c
      rw [List.length_cons, unitCount]
      omega

end Text

/-! ### Identifiers -/

/-- Taking what belongs stops where something else begins. -/
theorem takeWhile_append_of_stop {α : Type} {p : α → Bool} {run after : List α}
    (hrun : ∀ a ∈ run, p a = true) (hafter : ∀ a ∈ after.head?, p a = false) :
    (run ++ after).takeWhile p = run := by
  have hstop : after.takeWhile p = [] := by
    cases after with
    | nil => rfl
    | cons a after => exact List.takeWhile_cons_of_neg (by simp [hafter a rfl])
  rw [List.takeWhile_append_of_pos hrun, hstop, List.append_nil]

/-- Characters of identifiers are ASCII characters. -/
theorem toNat_lt_of_isTermChar {c : Char} (h : isTermChar c = true) : c.toNat < 128 := by
  change ((decide (c.val ≥ 'A'.val ∧ c.val ≤ 'Z'.val) ||
    (decide (c.val ≥ 'a'.val) && decide (c.val ≤ 'z'.val))) ||
    (decide (c.val ≥ '0'.val) && decide (c.val ≤ '9'.val)) || c == '_') = true at h
  simp only [Bool.or_eq_true, Bool.and_eq_true, decide_eq_true_eq, beq_iff_eq] at h
  have hbound {last : UInt32} (hle : c.val ≤ last) (hlast : last.toNat < 128) :
      c.toNat < 128 := Nat.lt_of_le_of_lt (UInt32.le_iff_toNat_le.mp hle) hlast
  rcases h with ((⟨-, hle⟩ | ⟨-, hle⟩) | ⟨-, hle⟩) | rfl
  · exact hbound hle (by decide)
  · exact hbound hle (by decide)
  · exact hbound hle (by decide)
  · decide

/-- An identifier is as wide as it is long. -/
theorem unitCount_of_isTermChar {cs : List Char} (h : ∀ c ∈ cs, isTermChar c = true) :
    Text.unitCount cs = cs.length := by
  induction cs with
  | nil => rfl
  | cons c cs ih =>
      have hc := toNat_lt_of_isTermChar (h c List.mem_cons_self)
      have hrest := ih fun d hd => h d (List.mem_cons_of_mem _ hd)
      have hwidth : Text.unitWidth c = 1 := if_pos (by omega)
      rw [Text.unitCount, hwidth, hrest, List.length_cons, Nat.add_comm]

/-- A keyword, a space and an identifier are as wide as they are long. -/
theorem unitCount_declaration {keyword identifier : List Char}
    (hplain : Text.unitCount keyword = keyword.length)
    (hword : ∀ c ∈ identifier, isTermChar c = true) :
    Text.unitCount (keyword ++ ' ' :: identifier) = keyword.length + 1 + identifier.length := by
  have hspace : Text.unitWidth ' ' = 1 := rfl
  rw [Text.unitCount_append, Text.unitCount, hplain, hspace, unitCount_of_isTermChar hword]
  omega

/-- What `identifier?` finds starts the text, consists of characters of identifiers, and is not
followed by one. -/
theorem identifier?_eq_some {cs identifier : List Char} (h : identifier? cs = some identifier) :
    ∃ after, cs = identifier ++ after ∧ identifier ≠ [] ∧
      (∀ c ∈ identifier, isTermChar c = true) ∧ ∀ c ∈ after.head?, isTermChar c = false := by
  simp only [identifier?] at h
  split at h
  case h_2 => cases h
  case h_1 c d cs =>
    split at h
    case isFalse => cases h
    case isTrue hhead =>
      obtain ⟨hc, hd⟩ := Bool.and_eq_true_iff.mp hhead
      cases h
      refine ⟨cs.dropWhile isTermChar, by simp, by simp, ?_, ?_⟩
      · intro x hx
        simp only [List.mem_cons] at hx
        rcases hx with rfl | rfl | hx
        · simp [isTermChar, Char.isAlphanum, hc]
        · exact hd
        · exact List.all_eq_true.mp List.all_takeWhile x hx
      · intro x hx
        have hstop := List.head?_dropWhile_not isTermChar cs
        rwa [Option.mem_def.mp hx] at hstop

/-- An identifier that is found at the start of a text is not empty, consists of characters of
identifiers, and is not followed by one. -/
theorem identifier_of_found {identifier after : List Char}
    (h : identifier? (identifier ++ after) = some identifier) :
    identifier ≠ [] ∧ (∀ c ∈ identifier, isTermChar c = true) ∧
      ∀ c ∈ after.head?, isTermChar c = false := by
  obtain ⟨after', heq, hfacts⟩ := identifier?_eq_some h
  rw [List.append_cancel_left heq]
  exact hfacts

/-- What a keyword declares at the start of a text is read after the keyword and a space. -/
theorem declared?_eq_some {keyword cs identifier : List Char}
    (h : declared? keyword cs = some identifier) :
    ∃ after, cs = (keyword ++ ' ' :: identifier) ++ after ∧
      identifier? (identifier ++ after) = some identifier := by
  rw [declared?] at h
  split at h
  case isFalse => cases h
  case isTrue hpre =>
    obtain ⟨rest, rfl⟩ := List.isPrefixOf_iff_prefix.mp hpre
    have hdrop : ((keyword ++ [' ']) ++ rest).drop (keyword.length + 1) = rest :=
      List.drop_left' (by simp)
    rw [hdrop] at h
    obtain ⟨after, rfl, -⟩ := identifier?_eq_some h
    exact ⟨after, by simp, h⟩

/-! ### Occurrences on a line -/

/-- The line reads the keyword, one space and the identifier, which starts at the column. -/
def DeclaresAt (keyword line : List Char) (column : Nat) (identifier : List Char) : Prop :=
  ∃ before after, line = before ++ (keyword ++ ' ' :: identifier) ++ after ∧
    column = Text.unitCount before + keyword.length + 1 ∧
    identifier? (identifier ++ after) = some identifier

/-- What one more character does to an occurrence on the rest of the line. -/
theorem DeclaresAt.cons {keyword rest : List Char} {column : Nat} {identifier : List Char}
    (h : DeclaresAt keyword rest column identifier) (c : Char) :
    DeclaresAt keyword (c :: rest) (Text.unitWidth c + column) identifier := by
  obtain ⟨before, after, rfl, rfl, hident⟩ := h
  refine ⟨c :: before, after, rfl, ?_, hident⟩
  rw [Text.unitCount]
  omega

/-- What more text does to an occurrence on the rest of the line. -/
theorem DeclaresAt.append {keyword rest : List Char} {column : Nat} {identifier : List Char}
    (h : DeclaresAt keyword rest column identifier) (front : List Char) :
    DeclaresAt keyword (front ++ rest) (Text.unitCount front + column) identifier := by
  induction front with
  | nil => simpa [Text.unitCount] using h
  | cons c front ih =>
      have hstep := ih.cons c
      rwa [← Nat.add_assoc] at hstep

/-- Whatever `picks` finds on the rest of a line stands there, its column counted from where the
rest starts. -/
theorem declaresAt_of_mem_picks {keyword : List Char}
    (hplain : Text.unitCount keyword = keyword.length) {start : Nat} {cs : List Char}
    {pick : Nat × List Char} (h : pick ∈ picks keyword start cs) :
    ∃ column, pick.1 = start + column ∧ DeclaresAt keyword cs column pick.2 := by
  fun_induction picks keyword start cs with
  | case1 => cases h
  | case2 start c rest found hfound here ih =>
      obtain ⟨after, hcs, hident⟩ := declared?_eq_some hfound
      have hwidth := unitCount_declaration hplain (identifier_of_found hident).2.1
      have hdrop : rest.drop (keyword.length + found.length) = after := by
        have hbehind : ((keyword ++ ' ' :: found) ++ after).drop
            (keyword ++ ' ' :: found).length = after := List.drop_left
        rw [← hcs, List.length_append, List.length_cons, ← Nat.add_assoc] at hbehind
        exact hbehind
      rcases List.mem_cons.mp h with rfl | h
      · exact ⟨keyword.length + 1, by omega, [], after, hcs, by simp [Text.unitCount], hident⟩
      · -- the walk goes on behind the identifier, so the occurrence lies in what follows it
        obtain ⟨column, hcolumn, hdecl⟩ := ih h
        rw [hdrop] at hdecl
        refine ⟨keyword.length + 1 + found.length + column, by omega, ?_⟩
        rw [hcs, ← hwidth]
        exact hdecl.append _
  | case3 start c rest hnone ih =>
      obtain ⟨column, hcolumn, hdecl⟩ := ih h
      exact ⟨Text.unitWidth c + column, by omega, hdecl.cons c⟩

/-- The columns of one keyword ascend along the line. -/
theorem pairwise_picks {keyword : List Char} (hplain : Text.unitCount keyword = keyword.length)
    (start : Nat) (cs : List Char) :
    (picks keyword start cs).Pairwise fun a b => a.1 < b.1 := by
  fun_induction picks keyword start cs with
  | case1 => exact .nil
  | case2 start c rest found hfound here ih =>
      refine List.pairwise_cons.mpr ⟨?_, ih⟩
      intro pick hpick
      obtain ⟨column, hcolumn, before, after, -, hpos, -⟩ := declaresAt_of_mem_picks hplain hpick
      omega
  | case3 start c rest hnone ih => exact ih

/-- Two occurrences at one column end their keywords at the same place, so that one keyword is the
end of the other. -/
theorem DeclaresAt.suffix_or_suffix {line : List Char} {column : Nat}
    {keyword keyword' identifier identifier' : List Char}
    (hplain : Text.unitCount keyword = keyword.length)
    (hplain' : Text.unitCount keyword' = keyword'.length)
    (h : DeclaresAt keyword line column identifier)
    (h' : DeclaresAt keyword' line column identifier') :
    keyword <:+ keyword' ∨ keyword' <:+ keyword := by
  obtain ⟨before, after, hline, hcolumn, -⟩ := h
  obtain ⟨before', after', hline', hcolumn', -⟩ := h'
  have heq : before ++ keyword = before' ++ keyword' := by
    have htext : before ++ keyword ++ (' ' :: identifier ++ after) =
        before' ++ keyword' ++ (' ' :: identifier' ++ after') := by
      simpa using hline.symm.trans hline'
    refine Text.eq_of_unitCount_eq htext ?_
    rw [Text.unitCount_append, Text.unitCount_append, hplain, hplain']
    omega
  exact List.suffix_or_suffix_of_suffix (List.suffix_append before keyword)
    (heq ▸ List.suffix_append before' keyword')

/-! ### The keywords -/

/-- Every keyword is as wide as it is long. -/
theorem unitCount_keyword {k : List Char × Kind} (h : k ∈ keywords) :
    Text.unitCount k.1 = k.1.length := by
  revert k
  decide

/-- No keyword is the end of another one. -/
theorem pairwise_keywords : keywords.Pairwise fun a b => ¬(a.1 <:+ b.1 ∨ b.1 <:+ a.1) := by
  decide

/-! ### Declarations of a file -/

namespace FileEntry

/-- The positions that one keyword declares something at, line by line. -/
theorem map_position_declarationsOf (f : FileEntry) (keyword : List Char) (kind : Kind) :
    (f.declarationsOf keyword kind).map (·.position) =
      f.lines.zipIdx.flatMap fun l => (picks keyword 0 l.1).map fun pick => ⟨l.2, pick.1⟩ := by
  simp [declarationsOf, List.map_flatMap, Function.comp_def]

/-- A declaration of a file stands on a line of the file. -/
theorem mem_declarationsOf {f : FileEntry} {keyword : List Char} {kind : Kind}
    (hplain : Text.unitCount keyword = keyword.length) {d : Declaration}
    (h : d ∈ f.declarationsOf keyword kind) :
    d.file = f.source ∧ ∃ line, f.line? d.position.line = some line ∧
      DeclaresAt keyword line d.position.character d.identifier.toList := by
  simp only [declarationsOf, List.mem_flatMap, List.mem_map] at h
  obtain ⟨⟨line, n⟩, hline, ⟨column, identifier⟩, hpick, rfl⟩ := h
  obtain ⟨column', hcolumn, hdecl⟩ := declaresAt_of_mem_picks hplain hpick
  rw [Nat.zero_add] at hcolumn
  obtain rfl : column = column' := hcolumn
  refine ⟨rfl, line, List.mk_mem_zipIdx_iff_getElem?.mp hline, ?_⟩
  simpa using hdecl

/-- **A declaration of a file stands on a line of the file**, after one of the keywords. -/
theorem mem_declarations {f : FileEntry} {d : Declaration} (h : d ∈ f.declarations) :
    d.file = f.source ∧ ∃ k ∈ keywords, ∃ line, f.line? d.position.line = some line ∧
      DeclaresAt k.1 line d.position.character d.identifier.toList := by
  obtain ⟨⟨keyword, kind⟩, hk, hd⟩ := List.mem_flatMap.mp h
  obtain ⟨hfile, line, hline, hdecl⟩ := mem_declarationsOf (unitCount_keyword hk) hd
  exact ⟨hfile, (keyword, kind), hk, line, hline, hdecl⟩

/-- The declarations of a file carry its identifier. -/
theorem uri_of_mem_declarations {f : FileEntry} {d : Declaration} (h : d ∈ f.declarations) :
    d.uri = f.uri :=
  congrArg SourceFile.uri (mem_declarations h).1

/-- One keyword declares at most one thing at a position. -/
theorem nodup_positions_declarationsOf (f : FileEntry) {keyword : List Char}
    (hplain : Text.unitCount keyword = keyword.length) (kind : Kind) :
    ((f.declarationsOf keyword kind).map (·.position)).Nodup := by
  rw [map_position_declarationsOf, List.nodup_flatMap]
  constructor
  · rintro ⟨line, n⟩ -
    refine List.pairwise_map.mpr ((pairwise_picks hplain 0 line).imp ?_)
    intro a b hlt heq
    exact Nat.ne_of_lt hlt (congrArg Position.character heq)
  · have hnumbers : (f.lines.zipIdx.map (·.2)).Nodup := by
      rw [List.zipIdx_map_snd]
      exact List.nodup_range'
    refine (List.pairwise_map.mp hnumbers).imp ?_
    rintro ⟨line, n⟩ ⟨line', n'⟩ hne position hmem hmem'
    obtain ⟨pick, -, rfl⟩ := List.mem_map.mp hmem
    obtain ⟨pick', -, heq⟩ := List.mem_map.mp hmem'
    exact hne (congrArg Position.line heq).symm

/-- **No two declarations of a file share their position**, whatever their keywords are. -/
theorem nodup_positions (f : FileEntry) : (f.declarations.map (·.position)).Nodup := by
  rw [declarations, List.map_flatMap, List.nodup_flatMap]
  constructor
  · rintro ⟨keyword, kind⟩ hk
    exact nodup_positions_declarationsOf f (unitCount_keyword hk) kind
  · refine pairwise_keywords.imp_of_mem ?_
    rintro ⟨keyword, kind⟩ ⟨keyword', kind'⟩ hk hk' hends position hmem hmem'
    obtain ⟨d, hd, rfl⟩ := List.mem_map.mp hmem
    obtain ⟨d', hd', hposition⟩ := List.mem_map.mp hmem'
    obtain ⟨-, line, hline, hdecl⟩ := mem_declarationsOf (unitCount_keyword hk) hd
    obtain ⟨-, line', hline', hdecl'⟩ := mem_declarationsOf (unitCount_keyword hk') hd'
    rw [hposition] at hline' hdecl'
    obtain rfl : line = line' := Option.some.inj (hline.symm.trans hline')
    exact hends (hdecl.suffix_or_suffix (unitCount_keyword hk) (unitCount_keyword hk') hdecl')

end FileEntry

end SymbolAtlas
