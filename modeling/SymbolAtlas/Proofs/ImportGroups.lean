import Mathlib.Data.List.Basic
import Mathlib.Data.List.TakeWhile
import SymbolAtlas.Imports

/-!
# Import groups, sorted

What it means that every group of import lines is sorted, said without the algorithm: `Organizes`
takes a listing apart into lines that are no imports and maximal runs of import lines, keeps the
former and puts the latter in ascending order. A run is maximal to its right by what is said of the
line after it, and to its left because a run is never followed by a run. The relation determines its
result, and the result is what the algorithm computes.

The changes are the lines at which two listings differ. Counted from any line on, they are the
change of the first line and those of the rest (`changesFrom_cons`), which is the form in which
proofs about their application meet them.

## Main results

* `organizes_iff`: the relation holds of a listing and what the algorithm computes from it.
* `organized_perm`: the lines stay the same ones.
* `mem_changesFrom`, `pairwise_changesFrom`: where the changes are, and in which order.
-/

namespace SymbolAtlas.Imports

/-- The second listing is the first one with every maximal run of import lines sorted. -/
inductive Organizes : List (List Char) → List (List Char) → Prop where
  | nil : Organizes [] []
  | other {line : List Char} {rest rest' : List (List Char)} (hline : isImport line = false)
      (hrest : Organizes rest rest') : Organizes (line :: rest) (line :: rest')
  | group {run run' rest rest' : List (List Char)} (hne : run ≠ [])
      (himports : ∀ line ∈ run, isImport line = true)
      (hmaximal : ∀ line ∈ rest.head?, isImport line = false)
      (hperm : run'.Perm run) (hsorted : run'.Pairwise fun a b => ¬b < a)
      (hrest : Organizes rest rest') : Organizes (run ++ rest) (run' ++ rest')

/-! ### One group -/

/-- Sorting keeps the lines of a group. -/
theorem sortGroup_perm (group : List (List Char)) : (sortGroup group).Perm group :=
  List.mergeSort_perm group _

/-- Sorting puts the lines of a group in ascending order. -/
theorem sortGroup_sorted (group : List (List Char)) :
    (sortGroup group).Pairwise fun a b => ¬b < a := by
  have htrans (a b c : List Char) (hab : (!decide (b < a)) = true)
      (hbc : (!decide (c < b)) = true) : (!decide (c < a)) = true := by
    simp only [Bool.not_eq_true', decide_eq_false_iff_not, List.not_lt] at hab hbc ⊢
    exact List.le_trans hab hbc
  have htotal (a b : List Char) : (!decide (b < a) || !decide (a < b)) = true := by
    simp only [Bool.or_eq_true, Bool.not_eq_true', decide_eq_false_iff_not, List.not_lt]
    exact List.le_total a b
  refine (List.pairwise_mergeSort htrans htotal group).imp fun {a b} hab => ?_
  simpa only [Bool.not_eq_true', decide_eq_false_iff_not] using hab

/-- A group has one ascending order. -/
theorem eq_sortGroup {group group' : List (List Char)} (hperm : group'.Perm group)
    (hsorted : group'.Pairwise fun a b => ¬b < a) : group' = sortGroup group := by
  have hantisymm (a b : List Char) (hab : ¬b < a) (hba : ¬a < b) : a = b :=
    List.le_antisymm (List.not_lt.mp hab) (List.not_lt.mp hba)
  exact List.Perm.eq_of_pairwise (fun a b _ _ => hantisymm a b) hsorted (sortGroup_sorted group)
    (hperm.trans (sortGroup_perm group).symm)

/-! ### All groups -/

/-- The algorithm on a run of imports and the line after it. -/
theorem organized_append {run rest : List (List Char)} (hne : run ≠ [])
    (himports : ∀ line ∈ run, isImport line = true)
    (hmaximal : ∀ line ∈ rest.head?, isImport line = false) :
    organized (run ++ rest) = sortGroup run ++ organized rest := by
  cases run with
  | nil => exact absurd rfl hne
  | cons line run =>
      obtain ⟨hline, hrun⟩ := List.forall_mem_cons.mp himports
      have htake : rest.takeWhile isImport = [] := by
        cases rest with
        | nil => rfl
        | cons next rest => exact List.takeWhile_cons_of_neg (by simp [hmaximal next rfl])
      have hdrop : rest.dropWhile isImport = rest := by
        cases rest with
        | nil => rfl
        | cons next rest => exact List.dropWhile_cons_of_neg (by simp [hmaximal next rfl])
      rw [List.cons_append, organized, if_pos hline, List.takeWhile_append_of_pos hrun,
        List.dropWhile_append_of_pos hrun, htake, hdrop, List.append_nil]

/-- The algorithm on a line that is no import. -/
theorem organized_other {line : List Char} (rest : List (List Char))
    (hline : isImport line = false) : organized (line :: rest) = line :: organized rest := by
  rw [organized, if_neg (by simp [hline])]

/-- The line after a run of imports is none. -/
theorem head?_dropWhile_isImport (lines : List (List Char)) :
    ∀ line ∈ (lines.dropWhile isImport).head?, isImport line = false := by
  intro line hline
  have hnot := List.head?_dropWhile_not isImport lines
  rw [Option.mem_def.mp hline] at hnot
  exact hnot

/-- **The algorithm sorts every group** and touches nothing else. -/
theorem organizes_organized (lines : List (List Char)) : Organizes lines (organized lines) := by
  fun_induction organized lines with
  | case1 => exact .nil
  | case2 line rest himport ih =>
      have hrun : ∀ other ∈ line :: rest.takeWhile isImport, isImport other = true :=
        List.forall_mem_cons.mpr ⟨himport, fun _ h => List.mem_takeWhile_imp h⟩
      have hgroup := Organizes.group (List.cons_ne_nil line _) hrun
        (head?_dropWhile_isImport rest) (sortGroup_perm _) (sortGroup_sorted _) ih
      rwa [List.cons_append, List.takeWhile_append_dropWhile] at hgroup
  | case3 line rest hother ih => exact .other (by simpa using hother) ih

/-- The relation determines its result. -/
theorem Organizes.eq {lines lines' : List (List Char)} (h : Organizes lines lines') :
    lines' = organized lines := by
  induction h with
  | nil => simp [organized]
  | other hline hrest ih => rw [ih, organized_other _ hline]
  | group hne himports hmaximal hperm hsorted hrest ih =>
      rw [ih, organized_append hne himports hmaximal, eq_sortGroup hperm hsorted]

/-- **Sorting every group** is what the algorithm does. -/
theorem organizes_iff {lines lines' : List (List Char)} :
    Organizes lines lines' ↔ lines' = organized lines := by
  refine ⟨Organizes.eq, ?_⟩
  rintro rfl
  exact organizes_organized lines

/-- A group of two imports in the wrong order. -/
theorem organized_swapped {a b : List Char} {rest : List (List Char)} (ha : isImport a = true)
    (hb : isImport b = true) (hlt : a < b)
    (hmaximal : ∀ line ∈ rest.head?, isImport line = false) :
    organized (b :: a :: rest) = a :: b :: organized rest := by
  have hsorted : [a, b].Pairwise fun a b => ¬b < a := List.pairwise_pair.mpr (List.lt_asymm hlt)
  have hgroup : Organizes ([b, a] ++ rest) ([a, b] ++ organized rest) :=
    .group (by simp) (by simp [ha, hb]) hmaximal (.swap b a []) hsorted (organizes_organized rest)
  exact hgroup.eq.symm

/-- Sorting groups keeps the lines. -/
theorem organized_perm (lines : List (List Char)) : (organized lines).Perm lines := by
  have horganizes := organizes_organized lines
  generalize organized lines = lines' at horganizes
  induction horganizes with
  | nil => exact .refl _
  | other _ _ ih => exact ih.cons _
  | group _ _ _ hperm _ _ ih => exact hperm.append ih

@[simp] theorem length_organized (lines : List (List Char)) :
    (organized lines).length = lines.length := (organized_perm lines).length_eq

/-! ### Changes -/

/-- The changes of listings that start at the given line. -/
def changesFrom (n : Nat) (old new : List (List Char)) : List (Nat × List Char) :=
  ((old.zip new).zipIdx n).filterMap fun ((before, after), n) =>
    if before = after then none else some (n, after)

theorem changes_eq (old new : List (List Char)) : changes old new = changesFrom 0 old new := rfl

@[simp] theorem changesFrom_nil (n : Nat) : changesFrom n [] [] = [] := rfl

/-- The change of the first line, if it differs, and those of the rest. -/
theorem changesFrom_cons (n : Nat) (before after : List Char) (old new : List (List Char)) :
    changesFrom n (before :: old) (after :: new) =
      if before = after then changesFrom (n + 1) old new
      else (n, after) :: changesFrom (n + 1) old new := by
  rw [changesFrom, List.zip_cons_cons, List.zipIdx_cons, List.filterMap_cons]
  split <;> simp_all [changesFrom]

/-- **The changes** are the lines of the second listing that the first one has not. -/
theorem mem_changesFrom {n : Nat} {old new : List (List Char)} {c : Nat × List Char} :
    c ∈ changesFrom n old new ↔ ∃ i before after, old[i]? = some before ∧ new[i]? = some after ∧
      before ≠ after ∧ c = (n + i, after) := by
  simp only [changesFrom, List.mem_filterMap, List.mem_zipIdx_iff_le_and_getElem?_sub]
  constructor
  · rintro ⟨⟨⟨before, after⟩, k⟩, ⟨hle, hget⟩, hchange⟩
    obtain ⟨hbefore, hafter⟩ := List.getElem?_zip_eq_some.mp hget
    split at hchange
    · cases hchange
    next hne =>
      refine ⟨k - n, before, after, hbefore, hafter, hne, ?_⟩
      rw [Nat.add_sub_cancel' hle]
      exact (Option.some.inj hchange).symm
  · rintro ⟨i, before, after, hbefore, hafter, hne, rfl⟩
    refine ⟨((before, after), n + i), ⟨Nat.le_add_right n i, ?_⟩, if_neg hne⟩
    rw [Nat.add_sub_cancel_left]
    exact List.getElem?_zip_eq_some.mpr ⟨hbefore, hafter⟩

theorem mem_changes {old new : List (List Char)} {c : Nat × List Char} :
    c ∈ changes old new ↔ ∃ before, old[c.1]? = some before ∧ new[c.1]? = some c.2 ∧
      before ≠ c.2 := by
  rw [changes_eq, mem_changesFrom]
  constructor
  · rintro ⟨i, before, after, hbefore, hafter, hne, rfl⟩
    rw [Nat.zero_add]
    exact ⟨before, hbefore, hafter, hne⟩
  · rintro ⟨before, hbefore, hafter, hne⟩
    exact ⟨c.1, before, c.2, hbefore, hafter, hne, by rw [Nat.zero_add]⟩

/-- A line that is not among the changes is the same in both listings. -/
theorem getElem?_eq_of_not_mem_changes {old new : List (List Char)}
    (hlength : old.length = new.length) {n : Nat} (h : ∀ line, (n, line) ∉ changes old new) :
    new[n]? = old[n]? := by
  by_cases hn : n < old.length
  · have hold : old[n]? = some old[n] := List.getElem?_eq_getElem hn
    have hnew : new[n]? = some (new.get ⟨n, hlength ▸ hn⟩) := List.getElem?_eq_getElem _
    rw [hold, hnew]
    by_contra hne
    exact h _ (mem_changes.mpr ⟨_, hold, hnew, fun heq => hne (congrArg some heq.symm)⟩)
  · rw [List.getElem?_eq_none (Nat.le_of_not_lt hn),
      List.getElem?_eq_none (hlength ▸ Nat.le_of_not_lt hn)]

/-- The changes are in the order of their lines. -/
theorem pairwise_changesFrom (n : Nat) (old new : List (List Char)) :
    (changesFrom n old new).Pairwise fun c d => c.1 < d.1 := by
  induction old generalizing n new with
  | nil => exact .nil
  | cons before old ih =>
      cases new with
      | nil => exact .nil
      | cons after new =>
          rw [changesFrom_cons]
          split
          · exact ih (n + 1) new
          · refine .cons ?_ (ih (n + 1) new)
            intro c hc
            obtain ⟨i, -, -, -, -, -, rfl⟩ := mem_changesFrom.mp hc
            simp only
            omega

/-- Equal listings have no change. -/
theorem changesFrom_eq_nil_iff {n : Nat} {old new : List (List Char)}
    (hlength : old.length = new.length) : changesFrom n old new = [] ↔ old = new := by
  rw [List.eq_nil_iff_forall_not_mem]
  constructor
  · intro hnone
    refine List.ext_getElem hlength fun i hold hnew => ?_
    by_contra hne
    exact hnone _ (mem_changesFrom.mpr ⟨i, old[i], new[i], List.getElem?_eq_getElem hold,
      List.getElem?_eq_getElem hnew, hne, rfl⟩)
  · rintro rfl c hc
    obtain ⟨i, before, after, hbefore, hafter, hne, -⟩ := mem_changesFrom.mp hc
    exact hne (Option.some.inj (hbefore.symm.trans hafter))

end SymbolAtlas.Imports
