/-!
# Lines

A line ends at a line feed and nowhere else: a carriage return is a character of its line. A text
with `n` line feeds has `n + 1` lines, the last of which may be empty.

## Main results

* `joinWith_splitOn`: joining the pieces with the separator gives the text back.
* `splitOn_joinWith`: pieces without the separator are found again after joining.
* `splitOn_ne_nil`: there is always a first line.
-/

namespace SymbolAtlas.Text

variable {α : Type} [DecidableEq α]

/-- Cuts a sequence at every occurrence of `sep`. -/
def splitOn (sep : α) : List α → List (List α)
  | [] => [[]]
  | c :: cs =>
    if c = sep then [] :: splitOn sep cs
    else match splitOn sep cs with
      | [] => [[c]]
      | piece :: pieces => (c :: piece) :: pieces

/-- Writes the pieces one after the other with `sep` between them. -/
def joinWith {α : Type} (sep : α) : List (List α) → List α
  | [] => []
  | [piece] => piece
  | piece :: pieces => piece ++ sep :: joinWith sep pieces

theorem splitOn_ne_nil (sep : α) (cs : List α) : splitOn sep cs ≠ [] := by
  cases cs with
  | nil => simp [splitOn]
  | cons c cs =>
    simp only [splitOn]
    split
    · simp
    · split <;> simp

theorem joinWith_cons_cons {α : Type} (sep c : α) (piece : List α) (pieces : List (List α)) :
    joinWith sep ((c :: piece) :: pieces) = c :: joinWith sep (piece :: pieces) := by
  cases pieces <;> rfl

theorem joinWith_nil_cons {α : Type} (sep : α) {pieces : List (List α)} (h : pieces ≠ []) :
    joinWith sep ([] :: pieces) = sep :: joinWith sep pieces := by
  cases pieces with
  | nil => exact absurd rfl h
  | cons _ _ => rfl

/-- Nothing is lost when a text is cut. -/
theorem joinWith_splitOn (sep : α) (cs : List α) : joinWith sep (splitOn sep cs) = cs := by
  induction cs with
  | nil => rfl
  | cons c cs ih =>
    by_cases hc : c = sep
    · subst hc
      simp only [splitOn, if_true]
      rw [joinWith_nil_cons _ (splitOn_ne_nil _ _), ih]
    · simp only [splitOn, if_neg hc]
      cases hs : splitOn sep cs with
      | nil => exact absurd hs (splitOn_ne_nil _ _)
      | cons piece pieces => rw [joinWith_cons_cons, ← hs, ih]

/-- No piece contains the separator. -/
theorem not_mem_of_mem_splitOn {sep : α} {cs piece : List α} (h : piece ∈ splitOn sep cs) :
    sep ∉ piece := by
  induction cs generalizing piece with
  | nil => simp_all [splitOn]
  | cons c cs ih =>
    by_cases hc : c = sep
    · simp only [splitOn, if_pos hc, List.mem_cons] at h
      rcases h with rfl | h
      · exact List.not_mem_nil
      · exact ih h
    · simp only [splitOn, if_neg hc] at h
      cases hs : splitOn sep cs with
      | nil => exact absurd hs (splitOn_ne_nil _ _)
      | cons first pieces =>
        rw [hs] at h ih
        rcases List.mem_cons.mp h with rfl | h
        · simp [Ne.symm hc, ih List.mem_cons_self]
        · exact ih (List.mem_cons_of_mem _ h)

/-- A piece has characters of the text only, in their order. -/
theorem sublist_of_mem_splitOn {sep : α} {cs piece : List α} (h : piece ∈ splitOn sep cs) :
    piece.Sublist cs := by
  induction cs generalizing piece with
  | nil => simp_all [splitOn]
  | cons c cs ih =>
    by_cases hc : c = sep
    · simp only [splitOn, if_pos hc, List.mem_cons] at h
      rcases h with rfl | h
      · exact List.nil_sublist _
      · exact (ih h).cons c
    · simp only [splitOn, if_neg hc] at h
      cases hs : splitOn sep cs with
      | nil => exact absurd hs (splitOn_ne_nil _ _)
      | cons first pieces =>
        rw [hs] at h ih
        rcases List.mem_cons.mp h with rfl | h
        · exact (ih List.mem_cons_self).cons_cons c
        · exact (ih (List.mem_cons_of_mem _ h)).cons c

/-- There is at most one piece more than there are characters. -/
theorem length_splitOn_le (sep : α) (cs : List α) : (splitOn sep cs).length ≤ cs.length + 1 := by
  induction cs with
  | nil => exact Nat.le_refl 1
  | cons c cs ih =>
    simp only [splitOn]
    split
    · exact Nat.succ_le_succ ih
    · split
      · simp
      next hs =>
        rw [hs] at ih
        exact Nat.le_succ_of_le ih

/-- A text without the separator is one piece. -/
theorem splitOn_of_not_mem {sep : α} {cs : List α} (h : sep ∉ cs) : splitOn sep cs = [cs] := by
  induction cs with
  | nil => rfl
  | cons c cs ih =>
    obtain ⟨hc, hcs⟩ := not_or.mp (mt List.mem_cons.mpr h)
    simp [splitOn, Ne.symm hc, ih hcs]

/-- The first piece ends at the first separator. -/
theorem splitOn_append {sep : α} {piece : List α} (h : sep ∉ piece) (cs : List α) :
    splitOn sep (piece ++ sep :: cs) = piece :: splitOn sep cs := by
  induction piece with
  | nil => simp [splitOn]
  | cons c piece ih =>
    obtain ⟨hc, hpiece⟩ := not_or.mp (mt List.mem_cons.mpr h)
    simp [splitOn, Ne.symm hc, ih hpiece]

/-- Pieces without the separator are found again after joining. -/
theorem splitOn_joinWith {sep : α} {pieces : List (List α)} (hne : pieces ≠ [])
    (h : ∀ piece ∈ pieces, sep ∉ piece) : splitOn sep (joinWith sep pieces) = pieces := by
  induction pieces with
  | nil => exact absurd rfl hne
  | cons piece pieces ih =>
    obtain ⟨hpiece, hpieces⟩ := List.forall_mem_cons.mp h
    cases pieces with
    | nil => exact splitOn_of_not_mem hpiece
    | cons next pieces =>
      rw [joinWith, splitOn_append hpiece, ih (List.cons_ne_nil _ _) hpieces]
      exact List.cons_ne_nil _ _

/-- The lines of a text, without their line feeds. -/
def lines (text : String) : List (List Char) := splitOn '\n' text.toList

end SymbolAtlas.Text
