import SymbolAtlas.Proofs.TermRun

/-!
# The columns of a term

`MaximalRun` cuts a line into lists. An editor speaks of columns, and so does this module: a range
of columns is a term's if each of them holds the unit of a letter, a digit or the underscore, and
the columns next to it do not. Two such ranges that share a column are the same, because the first
column of one cannot lie behind the first column of the other inside it. So the range around a
cursor does not depend on where in it the cursor stands.

## Main results

* `isTermUnit_iff`: the units of identifiers, by their numbers.
* `IsTermRange.eq_of_shared`: ranges that share a column are the same.
* `MaximalRun.isTermRange`: a longest run is a range.
* `term_is_longest_run`: what the scan finds, for every line and every column.
-/

namespace SymbolAtlas

/-! ### Units by their numbers -/

/-- The unit of an ASCII digit, an ASCII letter or the underscore. -/
def IsNameUnit (u : Nat) : Prop :=
  (0x30 ≤ u ∧ u ≤ 0x39) ∨ (0x41 ≤ u ∧ u ≤ 0x5A) ∨ u = 0x5F ∨ (0x61 ≤ u ∧ u ≤ 0x7A)

instance (u : Nat) : Decidable (IsNameUnit u) := inferInstanceAs (Decidable (_ ∨ _))

/-- Identifiers consist of these units. -/
theorem isTermUnit_iff (u : Nat) : isTermUnit u = true ↔ IsNameUnit u := by
  by_cases hu : u < 0x80
  · have hall : ∀ u ∈ List.range 0x80, isTermUnit u = true ↔ IsNameUnit u := by
      decide +kernel
    exact hall u (List.mem_range.mpr hu)
  · constructor
    · intro hterm
      simp [isTermUnit, hu] at hterm
    · intro hname
      unfold IsNameUnit at hname
      omega

theorem isTermUnit_eq_false_iff (u : Nat) : isTermUnit u = false ↔ ¬IsNameUnit u := by
  rw [← isTermUnit_iff, Bool.not_eq_true]

/-! ### Ranges -/

/-- The columns from `first` to `last` hold units of identifiers, and those next to them, as far as
they exist, do not. -/
structure IsTermRange (us : List Nat) (first last : Nat) : Prop where
  inside : ∀ i, first ≤ i → i ≤ last → ∃ u, us[i]? = some u ∧ IsNameUnit u
  left : ∀ i u, i + 1 = first → us[i]? = some u → ¬IsNameUnit u
  right : ∀ u, us[last + 1]? = some u → ¬IsNameUnit u

namespace IsTermRange

variable {us : List Nat} {first last first' last' c : Nat}

/-- Of two ranges that share a column, none starts inside the other. -/
theorem first_le (h : IsTermRange us first last) (h' : IsTermRange us first' last')
    (hc : c ≤ last) (hc' : first' ≤ c) : first' ≤ first := by
  by_contra hlt
  obtain ⟨i, rfl⟩ : ∃ i, i + 1 = first' := ⟨first' - 1, by omega⟩
  obtain ⟨u, hu, hname⟩ := h.inside i (by omega) (by omega)
  exact h'.left i u rfl hu hname

/-- Of two ranges that share a column, none ends inside the other. -/
theorem le_last (h : IsTermRange us first last) (h' : IsTermRange us first' last')
    (hc : first ≤ c) (hc' : c ≤ last') : last ≤ last' := by
  by_contra hlt
  obtain ⟨u, hu, hname⟩ := h.inside (last' + 1) (by omega) (by omega)
  exact h'.right u hu hname

/-- **Ranges that share a column are the same.** -/
theorem eq_of_shared (h : IsTermRange us first last) (h' : IsTermRange us first' last')
    (hc : first ≤ c ∧ c ≤ last) (hc' : first' ≤ c ∧ c ≤ last') :
    first' = first ∧ last' = last :=
  ⟨Nat.le_antisymm (h.first_le h' hc.2 hc'.1) (h'.first_le h hc'.2 hc.1),
    Nat.le_antisymm (h'.le_last h hc'.1 hc.2) (h.le_last h' hc.1 hc'.2)⟩

end IsTermRange

namespace MaximalRun

variable {us before run after : List Nat}

/-- **A longest run is a range** of columns. -/
theorem isTermRange (h : MaximalRun us before run after) (hne : 0 < run.length) :
    IsTermRange us before.length (before.length + run.length - 1) := by
  refine ⟨?_, ?_, ?_⟩
  · intro i hi hi'
    obtain ⟨u, hu, hterm⟩ := h.isTermUnit hi (by omega)
    exact ⟨u, hu, (isTermUnit_iff u).mp hterm⟩
  · intro i u hi hu
    rw [h.split, List.append_assoc, List.getElem?_append_left (by omega)] at hu
    have hlast : before.getLast? = some u := by
      rw [List.getLast?_eq_getElem?, ← hi, Nat.add_sub_cancel, hu]
    exact (isTermUnit_eq_false_iff u).mp (h.left u hlast)
  · intro u hu
    have hcolumn : before.length + run.length - 1 + 1 = (before ++ run).length := by
      rw [List.length_append]
      omega
    rw [h.split, hcolumn, List.getElem?_append_right (Nat.le_refl _), Nat.sub_self,
      ← List.head?_eq_getElem?] at hu
    exact (isTermUnit_eq_false_iff u).mp (h.right u hu)

/-- The text of a run has the units of its columns. -/
theorem units_text (h : MaximalRun us before run after) :
    Text.units (String.ofList (run.map Char.ofNat)).toList =
      (us.drop before.length).take run.length := by
  have hcolumns : (us.drop before.length).take run.length = run := by
    rw [h.split, List.append_assoc, List.drop_left, List.take_left]
  have hchar : ∀ u ∈ run, (Char.ofNat u).toNat = u ∧ isTermChar (Char.ofNat u) = true := by
    intro u hu
    have hterm := h.inside u hu
    rw [SymbolAtlas.isTermUnit, Bool.and_eq_true, decide_eq_true_eq] at hterm
    have hvalid : u.isValidChar := .inl (by omega)
    refine ⟨?_, hterm.2⟩
    rw [Char.ofNat, dif_pos hvalid]
    rfl
  have hterm : ∀ c ∈ run.map Char.ofNat, isTermChar c = true := by
    intro c hc
    obtain ⟨u, hu, rfl⟩ := List.mem_map.mp hc
    exact (hchar u hu).2
  rw [hcolumns, String.toList_ofList, units_of_isTermChar hterm, List.map_map]
  exact (List.map_congr_left fun u hu => (hchar u hu).1).trans (List.map_id run)

end MaximalRun

/-! ### What the scan finds -/

namespace Term

/-- A cursor that stands on no unit of an identifier finds nothing. -/
theorem scan_eq_nothingAt {line : List Char} {c : Nat}
    (h : ∀ u, (Text.units line)[c]? = some u → ¬IsNameUnit u) : scan line c = nothingAt c := by
  cases hhere : (Text.units line)[c]? with
  | none => simp only [scan, hhere]
  | some u =>
      have hu := (isTermUnit_eq_false_iff u).mpr (h u hhere)
      simp [scan, hhere, hu]

/-- The scan never leaves its cursor. -/
theorem scan_around (line : List Char) (c : Nat) :
    (scan line c).first ≤ c ∧ c ≤ (scan line c).last := by
  by_cases h : ∃ u, (Text.units line)[c]? = some u ∧ IsNameUnit u
  · obtain ⟨u, hhere, hu⟩ := h
    obtain ⟨before, run, after, hrun, hleft, hright⟩ :=
      exists_maximalRun hhere ((isTermUnit_iff u).mpr hu)
    rw [scan_of_run hrun hleft hright]
    exact ⟨hleft, by dsimp only; omega⟩
  · rw [scan_eq_nothingAt fun u hhere hu => h ⟨u, hhere, hu⟩]
    exact ⟨Nat.le_refl c, Nat.le_refl c⟩

end Term

/-- **The scan finds the longest run around its cursor.** For every line and every column:
* If the column holds the unit of an ASCII letter, a digit or the underscore, the term's columns are
  the one range around the cursor that holds such units only and has none next to it. They all exist
  on the line. The term's text has these units and no others, one character for each, and its key is
  the text behind the marker. From each of its columns the scan finds the same term, and from every
  other column another range.
* In all other cases, which are another unit, half of a surrogate pair or a column behind the end of
  the line, the term is empty and its range is the column itself. -/
theorem term_is_longest_run (line : List Char) (c : Nat) :
    let us := Text.units line
    let t := Term.scan line c
    (∀ u, us[c]? = some u → IsNameUnit u →
      (IsTermRange us t.first t.last ∧ t.first ≤ c ∧ c ≤ t.last ∧ t.last < us.length) ∧
      (∀ first last, IsTermRange us first last → first ≤ c → c ≤ last →
        first = t.first ∧ last = t.last) ∧
      (Text.units t.raw.toList = (us.drop t.first).take (t.last - t.first + 1) ∧
        t.raw.length = t.last - t.first + 1 ∧ t.key = keyMarker ++ t.raw) ∧
      ∀ i, (t.first ≤ i ∧ i ≤ t.last → Term.scan line i = t) ∧
        (¬(t.first ≤ i ∧ i ≤ t.last) →
          ((Term.scan line i).first, (Term.scan line i).last) ≠ (t.first, t.last))) ∧
    ((∀ u, us[c]? = some u → ¬IsNameUnit u) →
      t.isEmpty = true ∧ t.key = keyMarker ∧ t.first = c ∧ t.last = c) := by
  intro us t
  constructor
  · intro u hhere hu
    obtain ⟨before, run, after, hrun, hleft, hright⟩ :=
      exists_maximalRun hhere ((isTermUnit_iff u).mpr hu)
    have hscan {i : Nat} (hi : before.length ≤ i ∧ i < before.length + run.length) :=
      Term.scan_of_run hrun hi.1 hi.2
    have ht : t = ⟨String.ofList (run.map Char.ofNat), before.length,
      before.length + run.length - 1⟩ := hscan ⟨hleft, hright⟩
    have hrange : IsTermRange us t.first t.last := by
      rw [ht]
      exact hrun.isTermRange (by omega)
    have hwidth : t.last - t.first + 1 = run.length := by
      rw [ht]
      dsimp only
      omega
    have haround : t.first ≤ c ∧ c ≤ t.last := Term.scan_around line c
    refine ⟨⟨hrange, haround.1, haround.2, ?_⟩, ?_, ⟨?_, ?_, rfl⟩, ?_⟩
    · obtain ⟨v, hv, -⟩ := hrange.inside t.last (by omega) (Nat.le_refl _)
      exact (List.getElem?_eq_some_iff.mp hv).1
    · intro first last h hfirst hlast
      exact hrange.eq_of_shared h haround ⟨hfirst, hlast⟩
    · rw [hwidth, ht]
      exact hrun.units_text
    · rw [hwidth, ht]
      simp
    · intro i
      constructor
      · intro hi
        rw [ht] at hi ⊢
        dsimp only at hi
        exact hscan (by omega)
      · intro hi heq
        -- the range of every scan holds its own cursor
        obtain ⟨hfirst, hlast⟩ := Prod.mk.inj heq
        have hown := Term.scan_around line i
        rw [hfirst, hlast] at hown
        exact hi hown
  · intro hother
    have ht : t = Term.nothingAt c := Term.scan_eq_nothingAt hother
    rw [ht]
    exact ⟨rfl, String.append_empty, rfl, rfl⟩

/-- The second half of a surrogate pair belongs to no term, and the term behind it starts at the
third column. -/
theorem term_is_longest_run_wide :
    let line := ['𝒳', ' ', 'a', '_', '1']
    (Term.scan line 1).isEmpty = true ∧ (Term.scan line 1).first = 1 ∧
      IsTermRange (Text.units line) (Term.scan line 4).first (Term.scan line 4).last ∧
      Term.scan line 3 = Term.scan line 4 := by
  intro line
  have hhalf : ∀ u, (Text.units line)[1]? = some u → ¬IsNameUnit u := by
    intro u hu
    obtain rfl : 0xDCB3 = u := Option.some.inj hu
    decide
  obtain ⟨hempty, -, hfirst, -⟩ := (term_is_longest_run line 1).2 hhalf
  obtain ⟨⟨hrange, -⟩, -, -, hsame⟩ := (term_is_longest_run line 4).1 '_'.toNat rfl (by decide)
  exact ⟨hempty, hfirst, hrange, (hsame 3).1 (by decide)⟩

end SymbolAtlas
