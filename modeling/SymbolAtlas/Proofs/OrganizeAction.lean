import Mathlib.Algebra.Order.BigOperators.Group.List
import Mathlib.Algebra.Order.Group.Nat
import SymbolAtlas.Proofs.UnreachedLines

/-!
# Sorting imports in an editor

The edits that sort imports are planned on lines that are cut at line feeds alone. An editor applies
them to lines without their carriage returns, so a line that is planned with one at its end is put
in front of the carriage return that is there already. This module follows the edits from the plan
through the action into the editor, for documents with line feeds, with carriage returns before
them, and with both.

Each line of the document is paired with the line that the plan puts in its place. `rewritten` is
what the editor makes of such a pair, and since a pair keeps the end of its line, all that has to be
compared are texts. What the plan does is right exactly if no planned line that is not there already
has a carriage return, and sorting the lines with their carriage returns is sorting their texts.
This is so as long as the numbers of the lines that change are kept as they are in the edits; if one
of them is not, nothing can be right (`changes_lt_of_kept`).

## Main results

* `exists_edited_of_afterAction?`, `afterAction?_of_lt`: what an editor makes of the action.
* `map_text_of_sortsImports`, `sortsImports_iff`: the result is right exactly if the texts of the
  lines are those of the sorted groups.
* `organize_action_sorts_iff`: when that is the case.
* `organize_action_doubles_carriages`: a document that is spoiled.
-/

namespace SymbolAtlas.Editor

open Imports (organized Organizes)

/-- The second document has the line ends of the first one, in their places, and the texts of its
lines with every group of imports sorted. -/
structure SortsImports (before after : List Char) : Prop where
  endings : (documentLines after).map (·.ending) = (documentLines before).map (·.ending)
  texts : Organizes ((documentLines before).map (·.text)) ((documentLines after).map (·.text))

open DocumentLine

/-! ### Lines and what is put in their place -/

/-- What an editor makes of a line when another one is planned for its place: nothing is done to a
line that stays, and of any other the text is replaced, up to the greatest column. -/
def rewritten (l : DocumentLine) (new : List Char) : DocumentLine :=
  if l.piece = new then l else overwritten l new

@[simp] theorem ending_rewritten (l : DocumentLine) (new : List Char) :
    (rewritten l new).ending = l.ending := by
  rw [rewritten]
  split <;> rfl

/-- The lines of a document, each with the line that is planned for its place. -/
def plan (cs : List Char) : List (DocumentLine × List Char) :=
  (documentLines cs).zip (organized (Text.splitOn '\n' cs))

/-- The document after the plan. -/
def planned (cs : List Char) : List DocumentLine := (plan cs).map fun r => rewritten r.1 r.2

variable {cs : List Char}

theorem map_fst_plan (cs : List Char) : (plan cs).map (·.1) = documentLines cs :=
  List.map_fst_zip (by rw [Imports.length_organized, length_documentLines])

theorem map_snd_plan (cs : List Char) : (plan cs).map (·.2) = organized (Text.splitOn '\n' cs) :=
  List.map_snd_zip (by rw [Imports.length_organized, length_documentLines])

theorem map_piece_plan (cs : List Char) : (plan cs).map (·.1.piece) = Text.splitOn '\n' cs := by
  rw [← map_piece_documentLines, ← map_fst_plan, List.map_map]
  rfl

/-- The planned lines are lines of the document. -/
theorem map_snd_plan_perm (cs : List Char) :
    ((plan cs).map (·.2)).Perm ((plan cs).map (·.1.piece)) := by
  rw [map_snd_plan, map_piece_plan]
  exact Imports.organized_perm _

theorem fst_mem_documentLines {r : DocumentLine × List Char} (h : r ∈ plan cs) :
    r.1 ∈ documentLines cs := by
  rw [← map_fst_plan]
  exact List.mem_map_of_mem h

theorem snd_mem_splitOn {r : DocumentLine × List Char} (h : r ∈ plan cs) :
    r.2 ∈ Text.splitOn '\n' cs := by
  refine (Imports.organized_perm _).mem_iff.mp ?_
  rw [← map_snd_plan]
  exact List.mem_map_of_mem h

/-- The lines that change, by the lines of the plan. -/
theorem mem_importChanges {contents : String} {c : Nat × List Char} :
    c ∈ importChanges contents ↔
      ∃ r, (plan contents.toList)[c.1]? = some r ∧ r.1.piece ≠ r.2 ∧ c.2 = r.2 := by
  rw [importChanges, Text.lines, Imports.mem_changes, ← map_snd_plan, ← map_piece_plan]
  simp only [List.getElem?_map, Option.map_eq_some_iff]
  constructor
  · rintro ⟨before, ⟨r, hr, rfl⟩, ⟨r', hr', hnew⟩, hne⟩
    obtain rfl : r = r' := Option.some.inj (hr.symm.trans hr')
    exact ⟨r, hr, hnew ▸ hne, hnew.symm⟩
  · rintro ⟨r, hr, hne, hnew⟩
    exact ⟨r.1.piece, ⟨r, hr, rfl⟩, ⟨r, hr, hnew.symm⟩, hnew ▸ hne⟩

/-- Each edit is of a line of the document, whose number is less than `2 ^ 32`. -/
theorem line_lt_of_mem_importEdits {contents : String} {e : LineEdit}
    (h : e ∈ importEdits contents) :
    e.line < (documentLines contents.toList).length ∧ e.line < Number.words32 := by
  obtain ⟨c, hc, rfl⟩ := List.mem_map.mp h
  obtain ⟨r, hr, -, -⟩ := mem_importChanges.mp hc
  have hlt : c.1 < (plan contents.toList).length := (List.getElem?_eq_some_iff.mp hr).1
  rw [← map_fst_plan, List.length_map]
  exact ⟨(Nat.mod_le _ _).trans_lt hlt, Nat.mod_lt _ (by decide)⟩

/-- **What an editor makes of the action**: it applies the edits. -/
theorem exists_edited_of_afterAction? {u : Uri} {contents after : String}
    (h : afterAction? u contents (organizeAction? u (importEdits contents)) = some after) :
    ∃ new, after = String.ofList (new.flatMap chars) ∧
      Edited 0 (importEdits contents) (documentLines contents.toList) new := by
  cases haction : organizeAction? u (importEdits contents) with
  | none =>
      have hnil : importEdits contents = [] := by
        rw [organizeAction?] at haction
        split at haction
        next hempty => exact List.isEmpty_iff.mp hempty
        next => cases haction
      rw [haction] at h
      cases h
      refine ⟨documentLines contents.toList, ?_, rfl, fun _ _ hl _ => hl, by simp [hnil]⟩
      rw [flatMap_chars_documentLines, String.ofList_toList]
  | some action =>
      rw [haction, afterAction?, read_organizeAction haction,
        if_pos fun e he => (line_lt_of_mem_importEdits he).2, Option.bind_some] at h
      obtain ⟨sorted, hperm, hsorted, rfl⟩ := exists_sorted_of_applyEdits? h
      obtain ⟨new, hfoldr, hedited⟩ := exists_edited [] (documentLines contents.toList) hsorted
        fun e he => ⟨Nat.zero_le _, by
          rw [List.length_nil, Nat.zero_add]
          exact (line_lt_of_mem_importEdits (hperm.mem_iff.mp he)).1⟩
      rw [List.nil_append, flatMap_chars_documentLines] at hfoldr
      refine ⟨new, congrArg String.ofList hfoldr, hedited.endings, fun i l hl hother => ?_,
        fun e he => hedited.replaced e (hperm.mem_iff.mpr he)⟩
      exact hedited.kept i l hl fun e he => hother e (hperm.mem_iff.mp he)

/-- Edits that have the numbers of the lines that change make the planned document. -/
theorem Edited.eq_planned {contents : String} {new : List DocumentLine}
    (h : Edited 0 (importEdits contents) (documentLines contents.toList) new)
    (hnumbers : ∀ c ∈ importChanges contents, c.1 < Number.words32) :
    new = planned contents.toList := by
  have hlength : new.length = (documentLines contents.toList).length := by
    simpa using congrArg List.length h.endings
  refine List.ext_getElem? fun i => ?_
  rw [planned, List.getElem?_map]
  cases hrow : (plan contents.toList)[i]? with
  | none =>
      have hle := List.getElem?_eq_none_iff.mp hrow
      rw [← List.length_map, map_fst_plan, ← hlength] at hle
      exact List.getElem?_eq_none hle
  | some r =>
      have hold : (documentLines contents.toList)[i]? = some r.1 := by
        rw [← map_fst_plan, List.getElem?_map, hrow]
        rfl
      rw [Option.map_some, rewritten]
      split
      next hsame =>
        refine h.kept i r.1 hold fun e he hnumber => ?_
        obtain ⟨c, hc, rfl⟩ := List.mem_map.mp he
        obtain ⟨r', hr', hdiffer, -⟩ := mem_importChanges.mp hc
        rw [Imports.editOf_of_lt (hnumbers c hc), Nat.zero_add] at hnumber
        rw [show c.1 = i from hnumber, hrow] at hr'
        exact hdiffer (Option.some.inj hr' ▸ hsame)
      next hdiffer =>
        have hc : (i, r.2) ∈ importChanges contents :=
          mem_importChanges.mpr ⟨r, hrow, hdiffer, rfl⟩
        obtain ⟨k, l, hnumber, hl, hnew⟩ := h.replaced _ (List.mem_map_of_mem hc)
        rw [Imports.editOf_of_lt (hnumbers _ hc)] at hnumber hnew
        obtain rfl : i = k := hnumber.trans (Nat.zero_add k)
        obtain rfl : r.1 = l := Option.some.inj (hold.symm.trans hl)
        rw [hnew, String.toList_ofList]

/-- **What an editor makes of the action** is the planned document, if no number of a line that
changes is too large. -/
theorem afterAction?_of_lt (u : Uri) {contents : String}
    (hnumbers : ∀ c ∈ importChanges contents, c.1 < Number.words32) :
    afterAction? u contents (organizeAction? u (importEdits contents)) =
      some (String.ofList ((planned contents.toList).flatMap chars)) := by
  have hsorted : (importEdits contents).Pairwise fun d e => d.line < e.line := by
    have hordered := Imports.pairwise_changesFrom 0 (Text.lines contents)
      (organized (Text.lines contents))
    refine List.pairwise_map.mpr (hordered.imp_of_mem fun hc hd hlt => ?_)
    rw [Imports.editOf_of_lt (hnumbers _ hc), Imports.editOf_of_lt (hnumbers _ hd)]
    exact hlt
  have hsome : (afterAction? u contents (organizeAction? u (importEdits contents))).isSome := by
    cases haction : organizeAction? u (importEdits contents) with
    | none => rfl
    | some action =>
        rw [afterAction?, read_organizeAction haction,
          if_pos fun e he => (line_lt_of_mem_importEdits he).2, Option.bind_some,
          applyEdits?_wholeLine contents hsorted]
        rfl
  obtain ⟨after, hafter⟩ := Option.isSome_iff_exists.mp hsome
  obtain ⟨new, rfl, hedited⟩ := exists_edited_of_afterAction? hafter
  rw [hafter, hedited.eq_planned hnumbers]

/-! ### When the planned document is right -/

/-- An edited document has no line feed but at the ends of lines. -/
theorem Edited.not_mem_piece {contents : String} {new : List DocumentLine}
    (h : Edited 0 (importEdits contents) (documentLines contents.toList) new) :
    ∀ l ∈ new, '\n' ∉ l.piece := by
  have hlength : new.length = (documentLines contents.toList).length := by
    simpa using congrArg List.length h.endings
  have hold {l : DocumentLine} {i : Nat} (hl : (documentLines contents.toList)[i]? = some l) :
      '\n' ∉ l.text ++ l.ending.carriage :=
    Text.not_mem_of_mem_splitOn (piece_mem_splitOn (List.mem_of_getElem? hl))
  intro l hl
  obtain ⟨i, hi⟩ := List.mem_iff_getElem?.mp hl
  have hlt : i < (documentLines contents.toList).length :=
    hlength ▸ (List.getElem?_eq_some_iff.mp hi).1
  have hget := List.getElem?_eq_getElem hlt
  by_cases hedit : ∃ e ∈ importEdits contents, e.line = i
  · obtain ⟨e, he, rfl⟩ := hedit
    obtain ⟨k, before, hnumber, hbefore, hnew⟩ := h.replaced e he
    rw [← (Nat.zero_add k), ← hnumber, hi] at hnew
    obtain ⟨c, hc, rfl⟩ := List.mem_map.mp he
    obtain ⟨r, hr, -, hline⟩ := mem_importChanges.mp hc
    have hplan : '\n' ∉ r.2 :=
      Text.not_mem_of_mem_splitOn (snd_mem_splitOn (List.mem_of_getElem? hr))
    have hbefore := hold hbefore
    rw [List.mem_append, not_or] at hbefore
    rw [Option.some.inj hnew, piece, overwritten, Imports.editOf, String.toList_ofList, hline,
      List.mem_append, List.mem_append, not_or, not_or]
    exact ⟨⟨hplan, mt List.mem_of_mem_drop hbefore.1⟩, hbefore.2⟩
  · have hkept := h.kept i _ hget fun e he hnumber =>
      hedit ⟨e, he, hnumber.trans (Nat.zero_add i)⟩
    rw [Option.some.inj (hi.symm.trans hkept)]
    exact hold hget

variable {new : List DocumentLine}

/-- What an editor reads in a document with the line ends of another one. -/
theorem documentLines_flatMap_chars
    (hendings : new.map (·.ending) = (documentLines cs).map (·.ending))
    (hfeeds : ∀ l ∈ new, '\n' ∉ l.piece) :
    Closes (new.map (·.ending)) ∧ documentLines (new.flatMap chars) = ofPieces (new.map piece) := by
  have hcloses : Closes (new.map (·.ending)) := by
    rw [hendings]
    exact closes_documentLines cs
  have hne : new.map piece ≠ [] := by
    intro hnil
    rw [List.map_eq_nil_iff.mp hnil] at hcloses
    exact hcloses
  refine ⟨hcloses, ?_⟩
  rw [documentLines, flatMap_chars_of_closes hcloses, Text.splitOn_joinWith hne]
  simpa using hfeeds

/-- No sorted text has a carriage return. -/
theorem not_mem_of_mem_organized (hends : EndsLines cs) :
    ∀ text ∈ organized ((documentLines cs).map (·.text)), '\r' ∉ text := by
  intro text htext
  obtain ⟨l, hl, rfl⟩ := List.mem_map.mp ((Imports.organized_perm _).mem_iff.mp htext)
  exact not_mem_text_of_mem_documentLines hends l hl

/-- **A document with the line ends of another one** has its imports sorted exactly if its texts are
those of the sorted groups. The ends are right of themselves then: a text that takes the place of
another one can spoil them only by a carriage return, and the texts have none. -/
theorem sortsImports_iff (hends : EndsLines cs)
    (hendings : new.map (·.ending) = (documentLines cs).map (·.ending))
    (hfeeds : ∀ l ∈ new, '\n' ∉ l.piece) :
    SortsImports cs (new.flatMap chars) ↔
      new.map (·.text) = organized ((documentLines cs).map (·.text)) := by
  obtain ⟨hcloses, hread⟩ := documentLines_flatMap_chars hendings hfeeds
  constructor
  · rintro ⟨hsame, htexts⟩
    rw [hread, ← hendings] at hsame
    rw [hread, eq_of_endings_eq hcloses hsame] at htexts
    exact Imports.organizes_iff.mp htexts
  · intro htexts
    have hfree : ∀ l ∈ new, '\r' ∉ l.text := by
      intro l hl
      refine not_mem_of_mem_organized hends l.text ?_
      rw [← htexts]
      exact List.mem_map_of_mem hl
    have hlines : documentLines (new.flatMap chars) = new := by
      rw [hread]
      exact ofPieces_map_piece hcloses fun l hl hne => closed_piece_of_not_mem hne (hfree l hl)
    constructor
    · rw [hlines, hendings]
    · rw [hlines]
      exact Imports.organizes_iff.mpr htexts

/-- **No number is cut off** when the result of the action is right. An edit of a line beyond the
numbers would be one of another line, and the line would stay. -/
theorem changes_lt_of_sortsImports {contents : String} (hends : EndsLines contents.toList)
    (h : Edited 0 (importEdits contents) (documentLines contents.toList) new)
    (hsorts : SortsImports contents.toList (new.flatMap chars)) :
    ∀ c ∈ importChanges contents, c.1 < Number.words32 := by
  have htexts := (sortsImports_iff hends h.endings h.not_mem_piece).mp hsorts
  refine changes_lt_of_kept hends ?_ ?_
  · intro c hc hcarriage
    obtain ⟨i, l, -, -, hnew⟩ := h.replaced _ (List.mem_map_of_mem hc)
    rw [Imports.editOf, String.toList_ofList] at hnew
    refine not_mem_of_mem_organized hends (overwritten l c.2).text ?_
      (List.mem_append_left _ hcarriage)
    rw [← htexts]
    exact List.mem_map_of_mem (List.mem_of_getElem? hnew)
  · rw [← htexts]
    refine List.ext_getElem? fun i => ?_
    rw [List.getElem?_drop, List.getElem?_drop, List.getElem?_map, List.getElem?_map]
    have hlength : new.length = (documentLines contents.toList).length := by
      simpa using congrArg List.length h.endings
    cases hold : (documentLines contents.toList)[Number.words32 + i]? with
    | none =>
        have hle := List.getElem?_eq_none_iff.mp hold
        rw [List.getElem?_eq_none (hlength ▸ hle)]
    | some l =>
        rw [h.kept _ l hold fun e he hnumber => ?_]
        have hlt := (line_lt_of_mem_importEdits he).2
        omega

/-- What is left of the text of a line that is too wide to be replaced as a whole. -/
def excess (l : DocumentLine) (new : List Char) : List Char :=
  if l.piece = new then [] else l.text.drop (columnOffset l.text lineEnd)

/-- The text of a rewritten line, if it gets no carriage return. -/
theorem text_rewritten {l : DocumentLine} {new : List Char} (hl : '\r' ∉ l.text)
    (hnew : l.piece ≠ new → '\r' ∉ new) :
    (rewritten l new).text = (closed new).text ++ excess l new := by
  rw [rewritten, excess]
  split
  next hsame => rw [← hsame, text_closed_piece hl, List.append_nil]
  next hdiffer =>
    rw [closed_of_ne fun hlast => hnew hdiffer (List.mem_of_getLast? hlast)]
    rfl

theorem not_mem_text_of_mem_plan (hends : EndsLines cs) : ∀ r ∈ plan cs, '\r' ∉ r.1.text := by
  intro r hr
  exact not_mem_text_of_mem_documentLines hends r.1 (fst_mem_documentLines hr)

theorem map_text_plan (cs : List Char) :
    (plan cs).map (·.1.text) = (documentLines cs).map (·.text) := by
  rw [← map_fst_plan, List.map_map]
  rfl

/-- The planned lines without their carriage returns are the texts of the document. -/
theorem map_closed_plan_perm (hends : EndsLines cs) :
    ((plan cs).map fun r => (closed r.2).text).Perm ((documentLines cs).map (·.text)) := by
  have hperm := (map_snd_plan_perm cs).map fun p => (closed p).text
  rw [List.map_map, List.map_map] at hperm
  refine hperm.trans (.of_eq ?_)
  rw [← map_text_plan]
  exact List.map_congr_left fun r hr => text_closed_piece (not_mem_text_of_mem_plan hends r hr)

/-- If the texts are right, nothing is left of the lines that are replaced: there would be more
characters than before. -/
theorem excess_eq_nil (hends : EndsLines cs)
    (hsplit : ∀ r ∈ plan cs, (rewritten r.1 r.2).text = (closed r.2).text ++ excess r.1 r.2)
    (htexts : (planned cs).map (·.text) = organized ((documentLines cs).map (·.text))) :
    ∀ r ∈ plan cs, excess r.1 r.2 = [] := by
  have hplanned : (planned cs).map (·.text) =
      (plan cs).map fun r => (closed r.2).text ++ excess r.1 r.2 := by
    rw [planned, List.map_map]
    exact List.map_congr_left hsplit
  have hsum : ((planned cs).map (·.text.length)).sum =
      ((plan cs).map fun r => (closed r.2).text.length).sum +
        ((plan cs).map fun r => (excess r.1 r.2).length).sum := by
    have hlengths := congrArg (fun texts => (texts.map List.length).sum) hplanned
    simpa [Function.comp_def, List.sum_map_add] using hlengths
  have hbefore : ((planned cs).map (·.text.length)).sum =
      (((documentLines cs).map (·.text)).map List.length).sum := by
    have hperm := Imports.organized_perm ((documentLines cs).map (·.text))
    rw [← htexts] at hperm
    have hlengths := (hperm.map List.length).sum_eq
    simpa [Function.comp_def] using hlengths
  have hafter : ((plan cs).map fun r => (closed r.2).text.length).sum =
      (((documentLines cs).map (·.text)).map List.length).sum := by
    have hlengths := ((map_closed_plan_perm hends).map List.length).sum_eq
    simpa [Function.comp_def] using hlengths
  have hzero : ((plan cs).map fun r => (excess r.1 r.2).length).sum = 0 := by omega
  intro r hr
  exact List.length_eq_zero_iff.mp (List.sum_eq_zero_iff.mp hzero _ (List.mem_map_of_mem hr))

/-- **The texts are right** exactly if no line gets a carriage return, no line that is replaced is
too wide, and sorting lines is sorting texts. -/
theorem map_text_planned_eq_iff (hends : EndsLines cs) :
    (planned cs).map (·.text) = organized ((documentLines cs).map (·.text)) ↔
      (∀ r ∈ plan cs, r.1.piece ≠ r.2 → '\r' ∉ r.2 ∧ Text.unitCount r.1.text ≤ lineEnd) ∧
        (organized (Text.splitOn '\n' cs)).map (fun p => (closed p).text) =
          organized ((documentLines cs).map (·.text)) := by
  have htext := not_mem_text_of_mem_plan hends
  have hclosed : (organized (Text.splitOn '\n' cs)).map (fun p => (closed p).text) =
      (plan cs).map fun r => (closed r.2).text := by
    rw [← map_snd_plan, List.map_map]
    rfl
  have hplanned : (planned cs).map (·.text) = (plan cs).map fun r => (rewritten r.1 r.2).text := by
    rw [planned, List.map_map]
    rfl
  constructor
  · intro htexts
    have hfree : ∀ r ∈ plan cs, r.1.piece ≠ r.2 → '\r' ∉ r.2 := by
      intro r hr hdiffer hcarriage
      have hmem : (rewritten r.1 r.2).text ∈ organized ((documentLines cs).map (·.text)) := by
        rw [← htexts, hplanned]
        exact List.mem_map_of_mem hr
      refine not_mem_of_mem_organized hends _ hmem ?_
      rw [rewritten, if_neg hdiffer]
      exact List.mem_append_left _ hcarriage
    have hsplit : ∀ r ∈ plan cs,
        (rewritten r.1 r.2).text = (closed r.2).text ++ excess r.1 r.2 :=
      fun r hr => text_rewritten (htext r hr) (hfree r hr)
    have hexcess := excess_eq_nil hends hsplit htexts
    constructor
    · intro r hr hdiffer
      refine ⟨hfree r hr hdiffer, drop_columnOffset_eq_nil_iff.mp ?_⟩
      have hnone := hexcess r hr
      rwa [excess, if_neg hdiffer] at hnone
    · rw [hclosed, ← htexts, hplanned]
      refine List.map_congr_left fun r hr => ?_
      rw [hsplit r hr, hexcess r hr, List.append_nil]
  · rintro ⟨hrows, horder⟩
    rw [hplanned, ← horder, hclosed]
    refine List.map_congr_left fun r hr => ?_
    have hnone : excess r.1 r.2 = [] := by
      rw [excess]
      split
      · rfl
      next hdiffer => exact drop_columnOffset_eq_nil_iff.mpr (hrows r hr hdiffer).2
    rw [text_rewritten (htext r hr) fun hdiffer => (hrows r hr hdiffer).1, hnone, List.append_nil]

/-! ### In terms of the changes -/

/-- An edit can have the number of the line that changes, and replaces the whole text of it. -/
def Fits (cs : List Char) (c : Nat × List Char) : Prop :=
  c.1 < Number.words32 ∧ ∀ l ∈ (documentLines cs)[c.1]?, Text.unitCount l.text ≤ lineEnd

/-- After the action the imports are sorted. -/
def ActionSorts (u : Uri) (contents : String) : Prop :=
  ∃ after, afterAction? u contents (organizeAction? u (importEdits contents)) = some after ∧
    SortsImports contents.toList after.toList

/-- **When the action is right**, by the planned document. -/
theorem actionSorts_iff_planned (u : Uri) {contents : String} (hends : EndsLines contents.toList) :
    ActionSorts u contents ↔ (∀ c ∈ importChanges contents, c.1 < Number.words32) ∧
      (planned contents.toList).map (·.text) =
        organized ((documentLines contents.toList).map (·.text)) := by
  constructor
  · rintro ⟨after, hafter, hsorts⟩
    obtain ⟨new, rfl, hedited⟩ := exists_edited_of_afterAction? hafter
    rw [String.toList_ofList] at hsorts
    have hnumbers := changes_lt_of_sortsImports hends hedited hsorts
    rw [← hedited.eq_planned hnumbers]
    exact ⟨hnumbers, (sortsImports_iff hends hedited.endings hedited.not_mem_piece).mp hsorts⟩
  · rintro ⟨hnumbers, htexts⟩
    have hafter := afterAction?_of_lt u hnumbers
    obtain ⟨new, -, hedited⟩ := exists_edited_of_afterAction? hafter
    rw [← hedited.eq_planned hnumbers] at hafter htexts
    refine ⟨_, hafter, ?_⟩
    rw [String.toList_ofList]
    exact (sortsImports_iff hends hedited.endings hedited.not_mem_piece).mpr htexts

theorem getElem?_documentLines {i : Nat} {r : DocumentLine × List Char}
    (h : (plan cs)[i]? = some r) : (documentLines cs)[i]? = some r.1 := by
  rw [← map_fst_plan, List.getElem?_map, h]
  rfl

/-- The conditions on the lines of the plan are conditions on the lines that change. -/
theorem forall_importChanges_iff (contents : String) :
    (∀ c ∈ importChanges contents, Fits contents.toList c ∧ '\r' ∉ c.2) ↔
      (∀ c ∈ importChanges contents, c.1 < Number.words32) ∧
        ∀ r ∈ plan contents.toList,
          r.1.piece ≠ r.2 → '\r' ∉ r.2 ∧ Text.unitCount r.1.text ≤ lineEnd := by
  constructor
  · intro h
    refine ⟨fun c hc => (h c hc).1.1, fun r hr hdiffer => ?_⟩
    obtain ⟨i, hi⟩ := List.mem_iff_getElem?.mp hr
    obtain ⟨hfits, hfree⟩ := h (i, r.2) (mem_importChanges.mpr ⟨r, hi, hdiffer, rfl⟩)
    exact ⟨hfree, hfits.2 r.1 (getElem?_documentLines hi)⟩
  · rintro ⟨hnumbers, hrows⟩ c hc
    obtain ⟨r, hr, hdiffer, hline⟩ := mem_importChanges.mp hc
    obtain ⟨hfree, hwidth⟩ := hrows r (List.mem_of_getElem? hr) hdiffer
    refine ⟨⟨hnumbers c hc, fun l hl => ?_⟩, hline ▸ hfree⟩
    obtain rfl : r.1 = l := Option.some.inj ((getElem?_documentLines hr).symm.trans hl)
    exact hwidth

/-- **When the action is right**, by the lines that change. -/
theorem actionSorts_iff (u : Uri) (contents : String) (hends : EndsLines contents.toList) :
    ActionSorts u contents ↔
      (∀ c ∈ importChanges contents, Fits contents.toList c ∧ '\r' ∉ c.2) ∧
        (organized (Text.lines contents)).map (fun p => (closed p).text) =
          organized ((documentLines contents.toList).map (·.text)) := by
  rw [actionSorts_iff_planned u hends, forall_importChanges_iff, and_assoc,
    map_text_planned_eq_iff hends]
  rfl

/-! ### Line feeds only -/

/-- In a document whose size is a number of the editor every change fits. -/
theorem fits_of_unitCount_le {contents : String}
    (hsize : Text.unitCount contents.toList ≤ lineEnd) :
    ∀ c ∈ importChanges contents, Fits contents.toList c := by
  intro c hc
  obtain ⟨r, hr, -, -⟩ := mem_importChanges.mp hc
  have hline := getElem?_documentLines hr
  constructor
  · have hlt : c.1 < (documentLines contents.toList).length :=
      (List.getElem?_eq_some_iff.mp hline).1
    have hle := Text.length_splitOn_le '\n' contents.toList
    have hunits := Text.length_le_unitCount contents.toList
    rw [length_documentLines] at hlt
    simp only [Number.words32, lineEnd] at hsize ⊢
    omega
  · intro l hl
    have hpiece := Text.sublist_of_mem_splitOn (piece_mem_splitOn (List.mem_of_getElem? hl))
    have htext : l.text.Sublist l.piece := List.sublist_append_left _ _
    exact (Text.unitCount_le_of_sublist (htext.trans hpiece)).trans hsize

/-- Without carriage returns the texts of the lines are what a document is cut into. -/
theorem map_text_of_not_mem (h : '\r' ∉ cs) :
    (documentLines cs).map (·.text) = Text.splitOn '\n' cs := by
  rw [← map_piece_documentLines]
  refine List.map_congr_left fun l hl => ?_
  have hpiece : '\r' ∉ l.piece :=
    fun hcarriage => h ((Text.sublist_of_mem_splitOn (piece_mem_splitOn hl)).subset hcarriage)
  obtain ⟨text, ending⟩ := l
  cases ending with
  | crlf => exact absurd (List.mem_append_right text List.mem_cons_self) hpiece
  | lf => exact (List.append_nil text).symm
  | none => exact (List.append_nil text).symm

/-- **A document without carriage returns** is organized right. -/
theorem actionSorts_of_not_mem (u : Uri) {contents : String} (h : '\r' ∉ contents.toList)
    (hsize : Text.unitCount contents.toList ≤ lineEnd) : ActionSorts u contents := by
  have hpieces : ∀ p ∈ Text.splitOn '\n' contents.toList, '\r' ∉ p :=
    fun p hp hcarriage => h ((Text.sublist_of_mem_splitOn hp).subset hcarriage)
  have hends : EndsLines contents.toList := fun i hi => absurd (List.mem_of_getElem? hi) h
  refine (actionSorts_iff u contents hends).mpr ⟨?_, ?_⟩
  · intro c hc
    refine ⟨fits_of_unitCount_le hsize c hc, ?_⟩
    obtain ⟨r, hr, -, hline⟩ := mem_importChanges.mp hc
    rw [hline]
    exact hpieces _ (snd_mem_splitOn (List.mem_of_getElem? hr))
  · rw [map_text_of_not_mem h]
    refine (List.map_congr_left fun p hp => ?_).trans (List.map_id _)
    have hfree := hpieces p ((Imports.organized_perm _).mem_iff.mp hp)
    rw [closed_of_ne fun hlast => hfree (List.mem_of_getLast? hlast)]
    rfl

/-! ### Carriage returns before all line feeds -/

/-- One line is the last one. -/
theorem count_none_of_closes {es : List LineEnding} (h : Closes es) : es.count .none = 1 := by
  induction es with
  | nil => exact h.elim
  | cons e es ih =>
      cases es with
      | nil =>
          obtain rfl : e = .none := h
          rfl
      | cons next es => rw [List.count_cons_of_ne h.1, ih h.2]

/-- If all line feeds follow carriage returns, the last line is the one without. -/
theorem not_mem_piece_iff (hends : EndsLines cs) (hcrlf : ∀ l ∈ documentLines cs, l.ending ≠ .lf) :
    ∀ r ∈ plan cs, '\r' ∉ r.1.piece ↔ r.1.ending = .none := by
  rintro ⟨⟨text, ending⟩, new⟩ hr
  have htext : '\r' ∉ text := not_mem_text_of_mem_plan hends _ hr
  have hending : ending ≠ .lf := hcrlf ⟨text, ending⟩ (fst_mem_documentLines hr)
  cases ending with
  | lf => exact absurd rfl hending
  | crlf => simp [piece, LineEnding.carriage]
  | none => simp [piece, LineEnding.carriage, htext]

/-- If all line feeds follow carriage returns and no line gets a carriage return that is not there
already, then nothing is planned. There is one planned line without a carriage return, and it must
be in the last place, where the line without one is: any other line there would be new and have a
carriage return. So no place before the last one is left for a new line, nor then the last one. -/
theorem piece_eq_of_crlf (hends : EndsLines cs) (hcrlf : ∀ l ∈ documentLines cs, l.ending ≠ .lf)
    (hfree : ∀ r ∈ plan cs, r.1.piece ≠ r.2 → '\r' ∉ r.2) : ∀ r ∈ plan cs, r.1.piece = r.2 := by
  have hpiece := not_mem_piece_iff hends hcrlf
  -- the places where the document has no carriage return, and those where the plan has none
  let old := (plan cs).filter fun r => decide ('\r' ∉ r.1.piece)
  let new := (plan cs).filter fun r => decide ('\r' ∉ r.2)
  have hperm : (new.map (·.2)).Perm (old.map (·.1.piece)) := by
    have hfilter := (map_snd_plan_perm cs).filter fun p => decide ('\r' ∉ p)
    rwa [List.filter_map, List.filter_map] at hfilter
  have hold : old.length = 1 := by
    rw [← count_none_of_closes (closes_documentLines cs), ← map_fst_plan, List.map_map,
      List.count_eq_countP, List.countP_map, ← List.countP_eq_length_filter]
    exact List.countP_congr fun r hr => by simp [hpiece r hr]
  have hsub : old.Sublist new := by
    have heq : old = new.filter fun r => decide ('\r' ∉ r.1.piece) := by
      rw [List.filter_filter]
      refine List.filter_congr fun r hr => ?_
      by_cases hsame : r.1.piece = r.2
      · simp [hsame]
      · simp [hfree r hr hsame]
    rw [heq]
    exact List.filter_sublist
  have hsame : old = new := by
    refine hsub.eq_of_length ?_
    simpa using hperm.length_eq.symm
  obtain ⟨q, hq⟩ := List.length_eq_one_iff.mp hold
  rw [← hsame, hq] at hperm
  have hlast : q.2 = q.1.piece := by simpa using hperm
  intro r hr
  by_contra hdiffer
  have hmem : r ∈ new := List.mem_filter.mpr ⟨hr, by simpa using hfree r hr hdiffer⟩
  rw [← hsame, hq, List.mem_singleton] at hmem
  subst hmem
  exact hdiffer hlast.symm

/-- **A document with carriage returns before all line feeds** is organized right only if there is
nothing to do. -/
theorem actionSorts_iff_of_crlf (u : Uri) {contents : String} (hends : EndsLines contents.toList)
    (hcrlf : ∀ l ∈ documentLines contents.toList, l.ending ≠ .lf) :
    ActionSorts u contents ↔ importEdits contents = [] ∧
      organized ((documentLines contents.toList).map (·.text)) =
        (documentLines contents.toList).map (·.text) := by
  have hnil : importEdits contents = [] ↔ organized (Text.lines contents) = Text.lines contents :=
    Imports.importEdits_eq_nil_iff.trans eq_comm
  have htexts : (Text.lines contents).map (fun p => (closed p).text) =
      (documentLines contents.toList).map (·.text) := (map_text_documentLines hends).symm
  rw [actionSorts_iff u contents hends]
  constructor
  · rintro ⟨hchanges, horder⟩
    have hrows := (forall_importChanges_iff contents).mp hchanges
    have hsame := piece_eq_of_crlf hends hcrlf fun r hr hdiffer => (hrows.2 r hr hdiffer).1
    have hnone : organized (Text.lines contents) = Text.lines contents := by
      rw [Text.lines, ← map_snd_plan, ← map_piece_plan]
      exact List.map_congr_left fun r hr => (hsame r hr).symm
    rw [hnone, htexts] at horder
    exact ⟨hnil.mpr hnone, horder.symm⟩
  · rintro ⟨hnone, hsorted⟩
    have hchanges : importChanges contents = [] := List.map_eq_nil_iff.mp hnone
    rw [hnil.mp hnone, htexts, hchanges]
    exact ⟨by simp, hsorted.symm⟩

/-- **When the action that sorts imports is right.** Let every carriage return of a document be
followed by a line feed. An editor reads the action for the document and applies its edits; then the
document has the same line ends in the same places, each maximal run of import lines is sorted by
the texts of its lines, and all other lines are as they were,
* exactly if no line that changes gets a carriage return, none is at a place or has a text too large
  for the numbers of the editor, and sorting the lines together with their carriage returns puts
  their texts in order;
* always, if the document has no carriage return and its size is a number of the editor;
* only if nothing is edited and the texts are in order already, if each line feed follows a carriage
  return. -/
theorem organize_action_sorts_iff (u : Uri) (contents : String)
    (hends : EndsLines contents.toList) :
    let lines := documentLines contents.toList
    let texts := lines.map (·.text)
    (ActionSorts u contents ↔
      (∀ c ∈ importChanges contents, Fits contents.toList c ∧ '\r' ∉ c.2) ∧
        (organized (Text.lines contents)).map (fun p => (closed p).text) = organized texts) ∧
      ('\r' ∉ contents.toList → Text.unitCount contents.toList ≤ lineEnd →
        ActionSorts u contents) ∧
      ((∀ l ∈ lines, l.ending ≠ .lf) →
        (ActionSorts u contents ↔ importEdits contents = [] ∧ organized texts = texts)) :=
  ⟨actionSorts_iff u contents hends, actionSorts_of_not_mem u, actionSorts_iff_of_crlf u hends⟩

/-- A document with both kinds of line ends, in which only lines without carriage returns change. -/
theorem organize_action_sorts_iff_mixed :
    let u : Uri := ⟨"file:///A.scala"⟩
    let contents := "package a\r\nimport b\nimport a\n"
    EndsLines contents.toList ∧ importEdits contents = [⟨1, "import a"⟩, ⟨2, "import b"⟩] ∧
      ActionSorts u contents := by
  intro u contents
  have hends : EndsLines contents.toList := by decide
  have hpackage (line : List Char) (hline : Imports.isImport line = false) :
      organized [line, "import b".toList, "import a".toList, []] =
        [line, "import a".toList, "import b".toList, []] := by
    rw [Imports.organized_other _ hline,
      Imports.organized_swapped (by decide) (by decide) (by decide) (by decide),
      Imports.organized_other _ (by decide), organized]
  have hlines : Text.lines contents =
      ["package a\r".toList, "import b".toList, "import a".toList, []] := by decide
  have htexts : (documentLines contents.toList).map (·.text) =
      ["package a".toList, "import b".toList, "import a".toList, []] := by decide
  have hchanges : importChanges contents = [(1, "import a".toList), (2, "import b".toList)] := by
    rw [importChanges, hlines, hpackage _ (by decide)]
    decide
  have hedits : importEdits contents = [⟨1, "import a"⟩, ⟨2, "import b"⟩] := by
    rw [importEdits, hchanges]
    decide
  have hfits : ∀ c ∈ importChanges contents, Fits contents.toList c :=
    fits_of_unitCount_le (by decide)
  have horder : (organized (Text.lines contents)).map (fun p => (closed p).text) =
      organized ((documentLines contents.toList).map (·.text)) := by
    rw [hlines, htexts, hpackage _ (by decide), hpackage _ (by decide)]
    decide
  have hfree : ∀ c ∈ importChanges contents, '\r' ∉ c.2 := by
    rw [hchanges]
    decide
  refine ⟨hends, hedits, (organize_action_sorts_iff u contents hends).1.mpr ⟨?_, horder⟩⟩
  exact fun c hc => ⟨hfits c hc, hfree c hc⟩

/-- **Carriage returns are doubled.** Two imports are in the wrong order, each ended by a carriage
return and a line feed. After the action an editor has a second carriage return in each of the two
lines. -/
theorem organize_action_doubles_carriages :
    let u : Uri := ⟨"file:///A.scala"⟩
    let contents := "import b\r\nimport a\r\n"
    let spoiled := "import a\r\r\nimport b\r\r\n"
    EndsLines contents.toList ∧
      afterAction? u contents (organizeAction? u (importEdits contents)) = some spoiled ∧
      ¬SortsImports contents.toList spoiled.toList := by
  intro u contents spoiled
  have hends : EndsLines contents.toList := by decide
  have hswapped (a b : List Char) (ha : Imports.isImport a = true)
      (hb : Imports.isImport b = true) (hlt : a < b) : organized [b, a, []] = [a, b, []] := by
    rw [Imports.organized_swapped ha hb hlt (by decide), Imports.organized_other _ (by decide),
      organized]
  have hlines : Text.lines contents = ["import b\r".toList, "import a\r".toList, []] := by decide
  have htexts : (documentLines contents.toList).map (·.text) =
      ["import b".toList, "import a".toList, []] := by decide
  have hspoiled : afterAction? u contents (organizeAction? u (importEdits contents)) =
      some spoiled := by
    rw [afterAction?_of_lt, planned, plan, ← Text.lines, hlines,
      hswapped _ _ (by decide) (by decide) (by decide)]
    · decide
    · rw [importChanges, hlines, hswapped _ _ (by decide) (by decide) (by decide)]
      decide
  refine ⟨hends, hspoiled, fun h => ?_⟩
  have hsorted := Imports.organizes_iff.mp h.texts
  rw [htexts, hswapped _ _ (by decide) (by decide) (by decide)] at hsorted
  exact absurd hsorted (by decide)

end SymbolAtlas.Editor
