import SymbolAtlas.Proofs.OrganizedText
import SymbolAtlas.Proofs.TextEdits

/-!
# Lines that no edit reaches

An edit keeps the number of its line in 32 bits, so none is of a line beyond these numbers. When
such a line is to change, it stays as it is, and the edit that is meant for it goes to a line
further up. This module shows that the texts of the lines are not in order then, whatever becomes of
the lines that are reached.

The last line that is to change is to become the greatest one of its group up to its place. What is
there instead is not greater, and it stays. If all lines beyond it stay as well and the texts of the
group are in order, what is there is not smaller than any line above it in the group either, and one
of them is the line that is to come. So the two are the same, and nothing was to change.

## Main results

* `Imports.isImport_closed`: import lines are the same with and without a carriage return.
* `Imports.exists_isGroup`: each import line is in a group.
* `Imports.eq_of_kept`: the argument above, for one line of a listing.
* `Editor.changes_lt_of_kept`: no line is to change that cannot be reached.
-/

namespace SymbolAtlas

/-- White space at the end of a text is removed. -/
theorem Text.trim_concat {c : Char} (hc : Text.isBlank c = true) (cs : List Char) :
    Text.trim (cs ++ [c]) = Text.trim cs := by
  have hone : [c].dropWhile Text.isBlank = [] := by simp [hc]
  simp only [Text.trim, Text.trimStart, List.dropWhile_append]
  split
  next hempty => rw [hone, List.isEmpty_iff.mp hempty]
  next =>
    rw [List.reverse_append, List.reverse_singleton, List.singleton_append,
      List.dropWhile_cons_of_pos hc]

namespace Imports

/-- Whether a line is an import does not depend on a carriage return at its end. -/
theorem isImport_closed (line : List Char) :
    isImport (Editor.DocumentLine.closed line).text = isImport line := by
  obtain ⟨text, rfl, hclosed⟩ | ⟨-, hclosed⟩ := Editor.DocumentLine.closed_cases line
  · rw [hclosed, isImport, isImport, Text.trim_concat (by decide)]
  · rw [hclosed]

/-! ### One group -/

/-- In ascending order nothing up to a line is greater than the line. -/
theorem not_lt_of_mem_take {sorted : List (List Char)} (h : sorted.Pairwise fun a b => ¬b < a)
    {k : Nat} {a b : List Char} (ha : a ∈ sorted.take (k + 1)) (hb : sorted[k]? = some b) :
    ¬b < a := by
  rw [List.take_add_one, hb, Option.toList_some, List.mem_append, List.mem_singleton] at ha
  rcases ha with hbefore | rfl
  · have hcut : (sorted.take k ++ sorted.drop k).Pairwise fun a b => ¬b < a := by
      rwa [List.take_append_drop]
    have hfirst : b ∈ (sorted.drop k).head? := by rw [List.head?_drop, hb, Option.mem_some]
    exact (List.pairwise_append.mp hcut).2.2 a hbefore b (List.mem_of_mem_head? hfirst)
  · exact List.lt_irrefl a

/-- What is left of two arrangements when the same is cut off at the end. -/
theorem take_perm_take {lines lines' : List (List Char)} (h : lines.Perm lines') {k : Nat}
    (hdrop : lines.drop k = lines'.drop k) : (lines.take k).Perm (lines'.take k) := by
  rw [← List.take_append_drop k lines, ← List.take_append_drop k lines', hdrop] at h
  exact (List.perm_append_right_iff _).mp h

variable {lines group : List (List Char)} {text : List Char → List Char} {k : Nat}
  {p q : List Char}

/-- **The last line of a group that is to change** does not, if it stays while the texts of the
lines get into order. -/
theorem eq_of_kept_group (hp : group[k]? = some p) (hq : (sortGroup group)[k]? = some q)
    (hlater : (sortGroup group).drop (k + 1) = group.drop (k + 1))
    (hkept : (sortGroup (group.map text)).drop k = (group.map text).drop k)
    (htext : ¬p < text p) (hsame : text q = q) : p = q := by
  -- the lines up to there, sorted and as they are, and their texts
  have hfront : ((sortGroup group).take (k + 1)).Perm (group.take (k + 1)) :=
    take_perm_take (sortGroup_perm group) hlater
  have htexts : ((sortGroup (group.map text)).take (k + 1)).Perm
      ((group.map text).take (k + 1)) := by
    refine take_perm_take (sortGroup_perm _) ?_
    rw [← List.drop_drop, ← List.drop_drop, hkept]
  have hmem {lines : List (List Char)} {line : List Char} (hline : lines[k]? = some line) :
      line ∈ lines.take (k + 1) :=
    List.mem_of_getElem? (by rw [List.getElem?_take_of_lt (Nat.lt_succ_self k), hline])
  -- what is there is not greater than what is to come
  have hpq : ¬q < p :=
    not_lt_of_mem_take (sortGroup_sorted group) (hfront.mem_iff.mpr (hmem hp)) hq
  -- and its text is not smaller
  have hqp : ¬text p < q := by
    have hcomes : q ∈ (group.map text).take (k + 1) := by
      rw [← List.map_take, ← hsame]
      exact List.mem_map_of_mem (hfront.mem_iff.mp (hmem hq))
    refine not_lt_of_mem_take (sortGroup_sorted _) (htexts.mem_iff.mpr hcomes) ?_
    have hhead := congrArg List.head? hkept
    rwa [List.head?_drop, List.head?_drop, List.getElem?_map, hp, Option.map_some] at hhead
  exact List.le_antisymm (List.not_lt.mp hpq)
    (List.le_trans (List.not_lt.mp hqp) (List.not_lt.mp htext))

/-! ### One listing -/

/-- **Each import line** is in a group. -/
theorem Organizes.exists_isGroup {lines lines' : List (List Char)} (h : Organizes lines lines')
    {n : Nat} {line : List Char} (hline : lines[n]? = some line) (himport : isImport line = true) :
    ∃ before group after k, IsGroup lines before group after ∧ n = before.length + k ∧
      k < group.length := by
  induction h generalizing n with
  | nil => cases hline
  | @other first rest rest' hother _ ih =>
      cases n with
      | zero =>
          obtain rfl : first = line := Option.some.inj hline
          rw [himport] at hother
          cases hother
      | succ n =>
          obtain ⟨before, group, after, k, hgroup, rfl, hk⟩ := ih hline
          refine ⟨first :: before, group, after, k, hgroup.cons hother, ?_, hk⟩
          rw [List.length_cons]
          omega
  | @group run run' rest rest' hne himports hmaximal _ _ _ ih =>
      by_cases hn : n < run.length
      · exact ⟨[], run, rest, n, ⟨rfl, hne, himports, by simp, hmaximal⟩, by simp, hn⟩
      · rw [List.getElem?_append_right (by omega)] at hline
        obtain ⟨before, group, after, k, hgroup, hnumber, hk⟩ := ih hline
        refine ⟨run ++ before, group, after, k, hgroup.append hmaximal run, ?_, hk⟩
        rw [List.length_append]
        omega

/-- A group is one for the texts of the lines. -/
theorem IsGroup.map {before after : List (List Char)} (h : IsGroup lines before group after)
    (himport : ∀ p, isImport (text p) = isImport p) :
    IsGroup (lines.map text) (before.map text) (group.map text) (after.map text) := by
  have hmap {lines : List (List Char)} {b : Bool} (hall : ∀ line ∈ lines, isImport line = b) :
      ∀ line ∈ lines.map text, isImport line = b := by
    intro line hline
    obtain ⟨p, hp, rfl⟩ := List.mem_map.mp hline
    rw [himport, hall p hp]
  have hborder {o : Option (List Char)} (hall : ∀ line ∈ o, isImport line = false) :
      ∀ line ∈ o.map text, isImport line = false := by
    intro line hline
    obtain ⟨p, hp, rfl⟩ := Option.map_eq_some_iff.mp hline
    rw [himport, hall p hp]
  refine ⟨by rw [h.split, List.map_append, List.map_append], by simpa using h.nonempty,
    hmap h.imports, ?_, ?_⟩
  · rw [List.getLast?_map]
    exact hborder h.left
  · rw [List.head?_map]
    exact hborder h.right

/-- A line of the middle part of a listing. -/
theorem getElem?_middle (before : List (List Char)) (hk : k < group.length)
    (after : List (List Char)) : (before ++ (group ++ after))[before.length + k]? = group[k]? := by
  rw [List.getElem?_append_right (Nat.le_add_right _ _), Nat.add_sub_cancel_left,
    List.getElem?_append_left hk]

/-- Two listings that are the same from a place in the middle part on. -/
theorem drop_middle_eq {before before' group' after after' : List (List Char)}
    (hbefore : before.length = before'.length) (hgroup : group.length = group'.length)
    (hk : k ≤ group.length)
    (h : (before ++ (group ++ after)).drop (before.length + k) =
      (before' ++ (group' ++ after')).drop (before.length + k)) : group.drop k = group'.drop k := by
  rw [List.drop_length_add_append, hbefore, List.drop_length_add_append,
    List.drop_append_of_le_length hk, List.drop_append_of_le_length (hgroup ▸ hk)] at h
  exact (List.append_inj h (by rw [List.length_drop, List.length_drop, hgroup])).1

/-- **The last line that is to change** does not, if it stays while the texts of the lines get into
order. -/
theorem eq_of_kept (himport : ∀ p, isImport (text p) = isImport p) {m : Nat}
    (hp : lines[m]? = some p) (hq : (organized lines)[m]? = some q)
    (hlater : (organized lines).drop (m + 1) = lines.drop (m + 1))
    (hkept : (organized (lines.map text)).drop m = (lines.map text).drop m)
    (htext : ¬p < text p) (hsame : text q = q) : p = q := by
  by_cases hother : isImport p = false
  · have hstays := (organizes_organized lines).getElem? hp hother
    exact Option.some.inj (hstays.symm.trans hq)
  · obtain ⟨before, group, after, k, hgroup, rfl, hk⟩ :=
      (organizes_organized lines).exists_isGroup hp (by simpa using hother)
    have hsorted : (sortGroup group).length = group.length := (sortGroup_perm group).length_eq
    have hsorted' : (sortGroup (group.map text)).length = (group.map text).length :=
      (sortGroup_perm _).length_eq
    have hlength := length_organized before
    have hlength' := length_organized (before.map text)
    have htexts := hgroup.map himport
    rw [hgroup.organized_eq] at hlater hq
    rw [htexts.organized_eq, htexts.split] at hkept
    rw [hgroup.split, List.append_assoc] at hlater hp
    rw [List.append_assoc] at hkept
    rw [← hlength, getElem?_middle _ (hsorted ▸ hk)] at hq
    rw [getElem?_middle _ hk] at hp
    rw [← hlength, Nat.add_assoc] at hlater
    rw [← List.length_map, ← hlength'] at hkept
    refine eq_of_kept_group hp hq ?_ ?_ htext hsame
    · exact drop_middle_eq hlength hsorted (by rw [hsorted]; exact hk) hlater
    · exact drop_middle_eq hlength' hsorted' (by rw [hsorted', List.length_map]; exact hk.le) hkept

end Imports

namespace Editor

open Imports (organized)

/-- The texts of the lines of a document are what it is cut into at line feeds, without carriage
returns at the ends. -/
theorem map_text_documentLines {cs : List Char} (hends : EndsLines cs) :
    (documentLines cs).map (·.text) =
      (Text.splitOn '\n' cs).map fun p => (DocumentLine.closed p).text := by
  rw [← map_piece_documentLines, List.map_map]
  exact List.map_congr_left fun l hl =>
    (DocumentLine.text_closed_piece (not_mem_text_of_mem_documentLines hends l hl)).symm

/-- A text is not greater than its line. -/
theorem not_lt_text_closed (p : List Char) : ¬p < (DocumentLine.closed p).text := by
  obtain ⟨text, rfl, hclosed⟩ | ⟨-, hclosed⟩ := DocumentLine.closed_cases p
  · rw [hclosed]
    induction text with
    | nil => exact List.not_lt_nil _
    | cons c text ih =>
        rw [List.cons_append, List.cons_lt_cons_iff]
        rintro (hlt | ⟨-, hlt⟩)
        · exact Char.lt_irrefl c hlt
        · exact ih (DocumentLine.closed_concat text) hlt
  · rw [hclosed]
    exact List.lt_irrefl p

/-- **No line is to change that cannot be reached**, if the lines from a number on stay while the
texts of the lines get into order, and no line that is to change gets a carriage return. -/
theorem changes_lt_of_kept {contents : String} (hends : EndsLines contents.toList) {bound : Nat}
    (hfree : ∀ c ∈ importChanges contents, '\r' ∉ c.2)
    (hkept : (organized ((documentLines contents.toList).map (·.text))).drop bound =
      ((documentLines contents.toList).map (·.text)).drop bound) :
    ∀ c ∈ importChanges contents, c.1 < bound := by
  intro c hc
  by_contra hbeyond
  -- the last change is beyond the bound as well, and no line after it changes
  have hsorted : (importChanges contents).Pairwise fun c d => c.1 < d.1 :=
    Imports.pairwise_changesFrom 0 _ _
  obtain ⟨front, last, hlast⟩ := (importChanges contents).eq_nil_or_concat'.resolve_left
    (List.ne_nil_of_mem hc)
  have hmem : last ∈ importChanges contents := by
    rw [hlast]
    exact List.mem_append_right _ List.mem_cons_self
  have hle : ∀ d ∈ importChanges contents, d.1 ≤ last.1 := by
    rw [hlast] at hsorted ⊢
    have hfront := (List.pairwise_append.mp hsorted).2.2
    intro d hd
    rcases List.mem_append.mp hd with hd | hd
    · exact (hfront d hd last List.mem_cons_self).le
    · exact (congrArg Prod.fst (List.mem_singleton.mp hd)).le
  have hbound : bound ≤ last.1 := (Nat.le_of_not_lt hbeyond).trans (hle c hc)
  obtain ⟨p, hp, hq, hne⟩ := Imports.mem_changes.mp hmem
  have hlater : (organized (Text.lines contents)).drop (last.1 + 1) =
      (Text.lines contents).drop (last.1 + 1) := by
    refine List.ext_getElem? fun i => ?_
    rw [List.getElem?_drop, List.getElem?_drop]
    refine Imports.getElem?_eq_of_not_mem_changes (Imports.length_organized _).symm ?_
    exact fun line hline => absurd (hle _ hline) (by simp only; omega)
  rw [map_text_documentLines hends] at hkept
  refine hne (Imports.eq_of_kept Imports.isImport_closed hp hq hlater ?_ (not_lt_text_closed p) ?_)
  · have hcut := congrArg (List.drop (last.1 - bound)) hkept
    rwa [List.drop_drop, List.drop_drop, Nat.add_sub_cancel' hbound] at hcut
  · rw [DocumentLine.closed_of_ne fun hend => hfree last hmem (List.mem_of_getLast? hend)]

end Editor

end SymbolAtlas
