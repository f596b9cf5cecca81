import SymbolAtlas.Proofs.ImportGroups

/-!
# A text with its imports organized

The edits of a text, applied to its lines, give the lines with every group sorted, and joined by
line feeds these are the lines of the new text again; this needs a text that has no more lines than
the edits have numbers for them. `IsGroup` is a group as it stands in a text:
consecutive import lines with none on either side. What the relation `Organizes` says along a
listing is said here of each group and each other line by its place.

A second pass finds nothing to do: a group that is sorted has the same lines, and what stands next
to it has not moved, so that it is a group of the new text.

## Main results

* `lines_afterEdits`, `applyTo_importEdits`: the lines of the text after its edits.
* `Organizes.getElem?`, `IsGroup.organized_eq`: what becomes of other lines and of groups.
* `organized_organized`: a second pass changes nothing.
* `organized_eq_self_iff`: nothing is to be done exactly if all groups are sorted.
* `organizing_sorts_groups`: all of this for the edits of a text.
-/

namespace SymbolAtlas.Imports

/-! ### Applying edits -/

/-- The lines after the edits, each of which replaces a line. -/
def applyTo (lines : List (List Char)) (edits : List LineEdit) : List (List Char) :=
  edits.foldl (fun lines e => lines.set e.line e.newText.toList) lines

/-- The text after the edits. -/
def afterEdits (contents : String) (edits : List LineEdit) : String :=
  String.ofList (Text.joinWith '\n' (applyTo (Text.lines contents) edits))

/-- The edit of a line whose number fits. -/
theorem editOf_of_lt {c : Nat × List Char} (h : c.1 < Number.words32) :
    editOf c = ⟨c.1, String.ofList c.2⟩ := by
  rw [editOf, Nat.mod_eq_of_lt h]

/-- The edits from one listing to another bring about the other one, whatever stands before, if
there is a number for each line. -/
theorem applyTo_changesFrom (front : List (List Char)) {old new : List (List Char)}
    (hlength : old.length = new.length) (hshort : front.length + old.length ≤ Number.words32) :
    applyTo (front ++ old) ((changesFrom front.length old new).map editOf) = front ++ new := by
  induction old generalizing front new with
  | nil =>
      obtain rfl : new = [] := List.length_eq_zero_iff.mp hlength.symm
      rfl
  | cons before old ih =>
      cases new with
      | nil => cases hlength
      | cons after new =>
          rw [List.length_cons] at hshort
          have hrest := ih (front ++ [after]) (Nat.succ.inj hlength)
            (by rw [List.length_append, List.length_singleton]; omega)
          rw [List.length_append, List.length_singleton, List.append_assoc, List.append_assoc,
            List.singleton_append, List.singleton_append] at hrest
          rw [changesFrom_cons]
          split
          next heq => rw [heq, hrest]
          next =>
            have hset : (front ++ before :: old).set front.length after =
                front ++ after :: old := by simp
            have hnumber : front.length < Number.words32 := by omega
            rw [List.map_cons, editOf_of_lt hnumber, applyTo, List.foldl_cons,
              String.toList_ofList, hset]
            exact hrest

/-- **The edits of a text** organize its lines, if there is a number for each of them. -/
theorem applyTo_importEdits {contents : String}
    (hshort : (Text.lines contents).length ≤ Number.words32) :
    applyTo (Text.lines contents) (importEdits contents) = organized (Text.lines contents) :=
  applyTo_changesFrom [] (length_organized _).symm (by rwa [List.length_nil, Nat.zero_add])

theorem length_applyTo (lines : List (List Char)) (edits : List LineEdit) :
    (applyTo lines edits).length = lines.length := by
  induction edits generalizing lines with
  | nil => rfl
  | cons e edits ih => exact (ih _).trans List.length_set

/-- What holds of the lines and of those that edits put in their places holds after the edits. -/
theorem forall_mem_applyTo {P : List Char → Prop} {lines : List (List Char)}
    {edits : List LineEdit} (hlines : ∀ line ∈ lines, P line)
    (hedits : ∀ e ∈ edits, P e.newText.toList) : ∀ line ∈ applyTo lines edits, P line := by
  induction edits generalizing lines with
  | nil => exact hlines
  | cons e edits ih =>
      obtain ⟨he, hrest⟩ := List.forall_mem_cons.mp hedits
      refine ih (fun line hline => ?_) hrest
      rcases List.mem_or_eq_of_mem_set hline with hold | rfl
      · exact hlines line hold
      · exact he

/-- **The lines of a text after its edits** are those that the edits make of its lines: none of them
brings a line feed. -/
theorem lines_afterEdits (contents : String) :
    Text.lines (afterEdits contents (importEdits contents)) =
      applyTo (Text.lines contents) (importEdits contents) := by
  have hfree {line : List Char} (hline : line ∈ Text.lines contents) : '\n' ∉ line :=
    Text.not_mem_of_mem_splitOn hline
  have hne : applyTo (Text.lines contents) (importEdits contents) ≠ [] := by
    rw [← List.length_pos_iff, length_applyTo, List.length_pos_iff]
    exact Text.splitOn_ne_nil _ _
  rw [afterEdits, Text.lines, String.toList_ofList]
  refine Text.splitOn_joinWith hne (forall_mem_applyTo (fun line => hfree) fun e he => ?_)
  obtain ⟨c, hc, rfl⟩ := List.mem_map.mp he
  obtain ⟨-, -, hnew, -⟩ := mem_changes.mp hc
  rw [editOf, String.toList_ofList]
  exact hfree ((organized_perm _).mem_iff.mp (List.mem_of_getElem? hnew))

/-- There is nothing to do exactly if the lines are organized. -/
theorem importEdits_eq_nil_iff {contents : String} :
    importEdits contents = [] ↔ Text.lines contents = organized (Text.lines contents) := by
  rw [importEdits, List.map_eq_nil_iff]
  exact changesFrom_eq_nil_iff (length_organized _).symm

/-! ### Groups in a listing -/

/-- The listing has a group, a maximal run of import lines, between the lines before and after. -/
structure IsGroup (lines before group after : List (List Char)) : Prop where
  split : lines = before ++ group ++ after
  nonempty : group ≠ []
  imports : ∀ line ∈ group, isImport line = true
  left : ∀ line ∈ before.getLast?, isImport line = false
  right : ∀ line ∈ after.head?, isImport line = false

/-- A line that is no import stays in its place. -/
theorem Organizes.getElem? {lines lines' : List (List Char)} (h : Organizes lines lines')
    {n : Nat} {line : List Char} (hline : lines[n]? = some line)
    (hother : isImport line = false) : lines'[n]? = some line := by
  induction h generalizing n with
  | nil => cases hline
  | other _ _ ih =>
      cases n with
      | zero => exact hline
      | succ n => exact ih hline
  | @group run run' rest rest' hne himports hmaximal hperm hsorted hrest ih =>
      have hlength : run'.length = run.length := hperm.length_eq
      by_cases hn : n < run.length
      · rw [List.getElem?_append_left hn] at hline
        rw [himports line (List.mem_of_getElem? hline)] at hother
        cases hother
      · rw [List.getElem?_append_right (by omega)] at hline
        rw [List.getElem?_append_right (by omega), hlength]
        exact ih hline

/-- Where no group is cut, a listing is organized part by part. -/
theorem Organizes.append {lines lines' rest rest' : List (List Char)} (h : Organizes lines lines')
    (hborder : ∀ line ∈ lines.getLast?, isImport line = false) (hrest : Organizes rest rest') :
    Organizes (lines ++ rest) (lines' ++ rest') := by
  induction h with
  | nil => exact hrest
  | other hline _ ih =>
      refine .other hline (ih fun last hlast => hborder last ?_)
      rw [List.getLast?_cons, Option.mem_def.mp hlast]
      rfl
  | @group run run' others others' hne himports hmaximal hperm hsorted _ ih =>
      have hothers : others ≠ [] := by
        rintro rfl
        rw [List.append_nil] at hborder
        have hlast := hborder _ (List.getLast?_eq_some_getLast hne)
        rw [himports _ (List.getLast_mem hne)] at hlast
        cases hlast
      rw [List.append_assoc, List.append_assoc]
      refine .group hne himports ?_ hperm hsorted (ih ?_)
      · rwa [List.head?_append_of_ne_nil _ hothers]
      · rwa [List.getLast?_append_of_ne_nil _ hothers] at hborder

/-- **A group is sorted in its place.** -/
theorem IsGroup.organized_eq {lines before group after : List (List Char)}
    (h : IsGroup lines before group after) :
    organized lines = organized before ++ (sortGroup group ++ organized after) := by
  have hgroup := organizes_organized before |>.append h.left
    (.group h.nonempty h.imports h.right (sortGroup_perm group) (sortGroup_sorted group)
      (organizes_organized after))
  rw [h.split, List.append_assoc]
  exact hgroup.eq.symm

/-! ### A second pass -/

/-- A listing that does not start with an import does not do so when organized. -/
theorem Organizes.head?_other {lines lines' : List (List Char)} (h : Organizes lines lines')
    (hhead : ∀ line ∈ lines.head?, isImport line = false) :
    ∀ line ∈ lines'.head?, isImport line = false := by
  cases h with
  | nil => exact hhead
  | other => exact hhead
  | group hne himports =>
      rw [List.head?_append_of_ne_nil _ hne, List.head?_eq_some_head hne] at hhead
      have hfirst := hhead _ rfl
      rw [himports _ (List.head_mem hne)] at hfirst
      cases hfirst

/-- **What is organized stays as it is** when it is organized once more. -/
theorem Organizes.again {lines lines' : List (List Char)} (h : Organizes lines lines') :
    Organizes lines' lines' := by
  induction h with
  | nil => exact .nil
  | other hline _ ih => exact .other hline ih
  | @group run run' rest rest' hne himports hmaximal hperm hsorted hrest ih =>
      have hne' : run' ≠ [] := by
        rintro rfl
        exact hne (List.nil_perm.mp hperm)
      have himports' : ∀ line ∈ run', isImport line = true :=
        fun line hline => himports line (hperm.mem_iff.mp hline)
      exact .group hne' himports' (hrest.head?_other hmaximal) (.refl run') hsorted ih

theorem organized_organized (lines : List (List Char)) :
    organized (organized lines) = organized lines :=
  (organizes_organized lines).again.eq.symm

/-! ### Nothing to do -/

/-- A group stays one if a line that is no import is put in front. -/
theorem IsGroup.cons {line : List Char} {lines before group after : List (List Char)}
    (hline : isImport line = false) (h : IsGroup lines before group after) :
    IsGroup (line :: lines) (line :: before) group after := by
  refine ⟨by rw [h.split]; rfl, h.nonempty, h.imports, ?_, h.right⟩
  cases hlast : before.getLast? with
  | none =>
      obtain rfl : before = [] := List.getLast?_eq_none_iff.mp hlast
      rintro _ ⟨⟩
      exact hline
  | some last =>
      rw [List.getLast?_cons, hlast]
      rintro _ ⟨⟩
      exact h.left last hlast

/-- A group stays one if anything is put in front of a line that is no import. -/
theorem IsGroup.append {lines before group after : List (List Char)}
    (hhead : ∀ line ∈ lines.head?, isImport line = false) (h : IsGroup lines before group after)
    (front : List (List Char)) : IsGroup (front ++ lines) (front ++ before) group after := by
  have hbefore : before ≠ [] := by
    rintro rfl
    obtain ⟨line, group, rfl⟩ := List.exists_cons_of_ne_nil h.nonempty
    have hfirst := hhead line (by rw [h.split]; rfl)
    rw [h.imports line List.mem_cons_self] at hfirst
    cases hfirst
  refine ⟨by rw [h.split]; simp, h.nonempty, h.imports, ?_, h.right⟩
  rw [List.getLast?_append_of_ne_nil _ hbefore]
  exact h.left

/-- A listing whose groups are sorted is organized. -/
theorem Organizes.eq_of_sorted {lines lines' : List (List Char)} (h : Organizes lines lines')
    (hsorted : ∀ before group after, IsGroup lines before group after →
      group.Pairwise fun a b => ¬b < a) : lines' = lines := by
  induction h with
  | nil => rfl
  | other hline _ ih =>
      rw [ih fun before group after hgroup => hsorted _ _ _ (hgroup.cons hline)]
  | @group run run' rest rest' hne himports hmaximal hperm hsorted' _ ih =>
      have hrun : run.Pairwise fun a b => ¬b < a :=
        hsorted [] run rest ⟨rfl, hne, himports, by simp, hmaximal⟩
      have hsame : run' = run :=
        (eq_sortGroup hperm hsorted').trans (eq_sortGroup (.refl run) hrun).symm
      rw [hsame, ih fun before group after hgroup => hsorted _ _ _ (hgroup.append hmaximal run)]

/-- **Nothing is to be done** exactly if all groups are sorted. -/
theorem organized_eq_self_iff {lines : List (List Char)} :
    lines = organized lines ↔ ∀ before group after, IsGroup lines before group after →
      group.Pairwise fun a b => ¬b < a := by
  constructor
  · intro hsame before group after hgroup
    have heq := hgroup.organized_eq
    rw [← hsame, hgroup.split, List.append_assoc] at heq
    have hbefore := (List.append_inj heq (length_organized before).symm).2
    have hsorted := (List.append_inj hbefore (sortGroup_perm group).length_eq.symm).1
    rw [hsorted]
    exact sortGroup_sorted group
  · exact fun hsorted => ((organizes_organized lines).eq_of_sorted hsorted).symm

/-- **Organizing imports sorts every group and touches nothing else.** After its edits a text has as
many lines as before. There are lines to be reached: a line that is no import stays what it was, and
each group becomes an ascending arrangement of its own lines, in its place. For a text with these
lines there is nothing to do. The edits are one for each line that changes, from top to bottom, and
there is none exactly if every group was sorted before. An edit says what its line becomes, and has
the number of the line in 32 bits.

If the lines of the text are no more than there are such numbers, the text after the edits has the
lines to be reached, there is nothing to do for it, and the edits are at lines that exist, from top
to bottom, each of which they change. -/
theorem organizing_sorts_groups (contents : String) :
    let old := Text.lines contents
    let changes := importChanges contents
    let edits := importEdits contents
    let result := afterEdits contents edits
    (Text.lines result).length = old.length ∧ ∃ target : List (List Char),
      target.length = old.length ∧
      (∀ (n : Nat) (line : List Char), old[n]? = some line → isImport line = false →
        target[n]? = some line) ∧
      (∀ before group after, IsGroup old before group after →
        ∃ before' group' after', target = before' ++ group' ++ after' ∧
          before'.length = before.length ∧ group'.Perm group ∧
          group'.Pairwise fun a b => ¬b < a) ∧
      (∀ contents', Text.lines contents' = target → importEdits contents' = []) ∧
      (changes.Pairwise fun c d => c.1 < d.1) ∧
      (∀ n line', (n, line') ∈ changes ↔
        ∃ line, old[n]? = some line ∧ target[n]? = some line' ∧ line ≠ line') ∧
      edits = changes.map (fun c => ⟨c.1 % Number.words32, String.ofList c.2⟩) ∧
      (edits = [] ↔ ∀ before group after, IsGroup old before group after →
        group.Pairwise fun a b => ¬b < a) ∧
      (old.length ≤ Number.words32 →
        Text.lines result = target ∧ importEdits result = [] ∧
        (edits.Pairwise fun d e => d.line < e.line) ∧
        ∀ e ∈ edits, ∃ line, old[e.line]? = some line ∧ e.newText.toList ≠ line) := by
  intro old changes edits result
  have hagain : ∀ contents', Text.lines contents' = organized old →
      importEdits contents' = [] := by
    intro contents' hlines
    rw [importEdits_eq_nil_iff, hlines, organized_organized]
  have hlength : (Text.lines result).length = old.length := by
    rw [lines_afterEdits, length_applyTo]
  have hordered : changes.Pairwise fun c d => c.1 < d.1 := pairwise_changesFrom 0 _ _
  refine ⟨hlength, organized old, length_organized old, ?_, ?_, hagain, hordered, ?_, rfl, ?_, ?_⟩
  · exact fun n line hline hother => (organizes_organized old).getElem? hline hother
  · intro before group after hgroup
    refine ⟨organized before, sortGroup group, organized after, ?_, length_organized before,
      sortGroup_perm group, sortGroup_sorted group⟩
    rw [hgroup.organized_eq, List.append_assoc]
  · exact fun n line' => mem_changes
  · exact importEdits_eq_nil_iff.trans organized_eq_self_iff
  · intro hshort
    have hlines : Text.lines result = organized old :=
      (lines_afterEdits contents).trans (applyTo_importEdits hshort)
    have hedit {c : Nat × List Char} (hc : c ∈ changes) :
        editOf c = ⟨c.1, String.ofList c.2⟩ ∧
          ∃ line, old[c.1]? = some line ∧ line ≠ c.2 := by
      obtain ⟨line, hline, -, hne⟩ := mem_changes.mp hc
      have hlt : c.1 < old.length := (List.getElem?_eq_some_iff.mp hline).1
      exact ⟨editOf_of_lt (hlt.trans_le hshort), line, hline, hne⟩
    refine ⟨hlines, hagain result hlines, ?_, ?_⟩
    · refine List.pairwise_map.mpr (hordered.imp_of_mem fun hc hd hlt => ?_)
      rw [(hedit hc).1, (hedit hd).1]
      exact hlt
    · intro e he
      obtain ⟨c, hc, rfl⟩ := List.mem_map.mp he
      obtain ⟨heq, line, hline, hne⟩ := hedit hc
      rw [heq]
      exact ⟨line, hline, by rw [String.toList_ofList]; exact hne.symm⟩

/-- The lines of the first of two groups have different indentations, and count with them. -/
theorem organizing_sorts_groups_indented :
    let contents := "package p\nimport b\n import c\nimport a\n\nimport z"
    let group := ["import b".toList, " import c".toList, "import a".toList]
    IsGroup (Text.lines contents) ["package p".toList] group [[], "import z".toList] ∧
      ∃ before after, Text.lines (afterEdits contents (importEdits contents)) =
        before ++ [" import c".toList, "import a".toList, "import b".toList] ++ after ∧
          before.length = 1 := by
  intro contents group
  have hgroup : IsGroup (Text.lines contents) ["package p".toList] group
      [[], "import z".toList] := by
    refine ⟨by decide, by decide, List.all_eq_true.mp (by decide), ?_, ?_⟩
    · rintro line ⟨⟩
      decide
    · rintro line ⟨⟩
      decide
  obtain ⟨-, target, -, -, hsorts, -, -, -, -, -, hshort⟩ := organizing_sorts_groups contents
  obtain ⟨before, group', after, htarget, hlength, hperm, hsorted⟩ := hsorts _ _ _ hgroup
  have hlines : Text.lines (afterEdits contents (importEdits contents)) = target :=
    (hshort (by decide)).1
  have hsame : group' = [" import c".toList, "import a".toList, "import b".toList] :=
    (eq_sortGroup hperm hsorted).trans (eq_sortGroup (by decide) (by decide)).symm
  exact ⟨hgroup, before, after, hlines.trans (hsame ▸ htarget), hlength⟩

end SymbolAtlas.Imports
