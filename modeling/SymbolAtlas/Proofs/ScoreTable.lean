import Mathlib.Data.List.Basic
import SymbolAtlas.Matching

/-!
# The score table finds an occurrence if there is one

An occurrence of a text among glyphs is a choice of glyphs in their order that spell the text;
`Occurs` gives it by the positions of these glyphs. The score table keeps one occurrence per place
and drops all others, so that two things have to be seen: that what it keeps is an occurrence, and
that it keeps one where there is one.

For the former, cell `i` of a row is an occurrence among the glyphs up to and including its own
place. The glyphs before the current row are `seen`, those from the row on are `gs`, and a step to
the next row moves one glyph from the latter to the former.

For the latter, a cell is filled if its glyph has the right character and some cell of the row
before is filled at most as far to the right. A gap could be lost only where opening it leaves no
points, and every filled cell has at least the points of a match, which are more than the charge. A
row is as wide as the freedom that the needle leaves: of `n` glyphs the last `m` are out of reach of
a character that has `m` others after it.

## Main results

* `Occurs`, `exists_occurs_iff`: occurrences, and when there is one.
* `occurs_of_leftmost?`, `exists_leftmost?`: the leftmost occurrence.
* `lastRow_occurs`, `exists_mem_lastRow`: the rows, soundness and completeness.
* `occurs_of_optimal?`, `exists_optimal?`: the occurrence with the best score.
-/

namespace SymbolAtlas.Matching

/-! ### Occurrences -/

/-- The glyphs at the positions `ps`, in this order, spell the text. -/
def Occurs (cs : List Char) (gs : List Glyph) (ps : List Nat) : Prop :=
  ∃ places : List Glyph, places.Sublist gs ∧ places.map (·.char) = cs ∧
    places.map (·.position) = ps

/-- A text has an occurrence if it is a subsequence. -/
theorem exists_occurs_iff {cs : List Char} {gs : List Glyph} :
    (∃ ps, Occurs cs gs ps) ↔ cs.Sublist (gs.map (·.char)) := by
  rw [List.sublist_map_iff]
  constructor
  · rintro ⟨ps, places, hplaces, rfl, -⟩
    exact ⟨places, hplaces, rfl⟩
  · rintro ⟨places, hplaces, rfl⟩
    exact ⟨_, places, hplaces, rfl, rfl⟩

namespace Occurs

variable {cs : List Char} {gs gs' : List Glyph} {ps : List Nat}

theorem sublist (h : Occurs cs gs ps) : cs.Sublist (gs.map (·.char)) :=
  exists_occurs_iff.mp ⟨ps, h⟩

theorem length_eq (h : Occurs cs gs ps) : ps.length = cs.length := by
  obtain ⟨places, -, rfl, rfl⟩ := h
  rw [List.length_map, List.length_map]

/-- More glyphs do no harm. -/
theorem mono (h : Occurs cs gs ps) (hsub : gs.Sublist gs') : Occurs cs gs' ps := by
  obtain ⟨places, hplaces, hchars, hpositions⟩ := h
  exact ⟨places, hplaces.trans hsub, hchars, hpositions⟩

/-- An occurrence goes on at the next glyph. -/
theorem concat (h : Occurs cs gs ps) (g : Glyph) :
    Occurs (cs ++ [g.char]) (gs ++ [g]) (ps ++ [g.position]) := by
  obtain ⟨places, hplaces, rfl, rfl⟩ := h
  exact ⟨places ++ [g], hplaces.append (.refl _), by simp, by simp⟩

theorem reverse (h : Occurs cs gs ps) : Occurs cs.reverse gs.reverse ps.reverse := by
  obtain ⟨places, hplaces, rfl, rfl⟩ := h
  exact ⟨places.reverse, hplaces.reverse, List.map_reverse, List.map_reverse⟩

/-- One glyph is an occurrence of its character. -/
theorem singleton {g : Glyph} (hg : g ∈ gs) : Occurs [g.char] gs [g.position] :=
  ⟨[g], List.singleton_sublist.mpr hg, rfl, rfl⟩

end Occurs

/-- What `leftmost?` finds is an occurrence. -/
theorem occurs_of_leftmost? {cs : List Char} {gs : List Glyph} {ps : List Nat}
    (h : leftmost? cs gs = some ps) : Occurs cs gs ps := by
  fun_induction leftmost? cs gs generalizing ps with
  | case1 gs =>
      cases h
      exact ⟨[], List.nil_sublist gs, rfl, rfl⟩
  | case2 => cases h
  | case3 cs g gs ih =>
      obtain ⟨rest, hrest, rfl⟩ := Option.map_eq_some_iff.mp h
      obtain ⟨places, hplaces, rfl, rfl⟩ := ih hrest
      exact ⟨g :: places, hplaces.cons_cons g, rfl, rfl⟩
  | case4 c cs g gs hne ih => exact (ih h).mono (List.sublist_cons_self g gs)

/-- There is a leftmost occurrence if there is one at all. -/
theorem exists_leftmost? {cs : List Char} {gs : List Glyph}
    (h : cs.Sublist (gs.map (·.char))) : ∃ ps, leftmost? cs gs = some ps := by
  fun_induction leftmost? cs gs with
  | case1 gs => exact ⟨[], rfl⟩
  | case2 c cs => cases h
  | case3 cs g gs ih =>
      obtain ⟨ps, hps⟩ := ih h.of_cons_cons
      exact ⟨g.position :: ps, by rw [hps, Option.map_some]⟩
  | case4 c cs g gs hne ih =>
      -- a character that the first glyph does not have is found among the others
      rw [List.map_cons, List.cons_sublist_cons'] at h
      rcases h with h | ⟨rfl, -⟩
      · exact ih h
      · exact absurd rfl hne

/-! ### One step of the table -/

/-- Every filled cell has at least the points of a match. -/
def Scored (row : List (Option Cell)) : Prop := ∀ cell, some cell ∈ row → matchPoints ≤ cell.score

/-- A gap that opens or grows leads back to an occurrence that was there. -/
theorem Gap.path_of_advance {gap : Option Gap} {prev : Option Cell} {gap' : Gap}
    (h : Gap.advance gap prev = some gap') :
    (∃ cell, prev = some cell ∧ gap'.path = cell.path) ∨
      ∃ g, gap = some g ∧ gap'.path = g.path := by
  cases prev with
  | none =>
      cases gap with
      | none => cases h
      | some g =>
          cases h
          exact .inr ⟨g, rfl, rfl⟩
  | some cell =>
      cases gap with
      | none =>
          simp only [Gap.advance, Option.map_none] at h
          split at h <;> cases h
          exact .inl ⟨cell, rfl, rfl⟩
      | some g =>
          simp only [Gap.advance, Option.map_some] at h
          split at h <;> cases h
          · exact .inl ⟨cell, rfl, rfl⟩
          · exact .inr ⟨g, rfl, rfl⟩

/-- A gap that is there stays, and a filled cell opens one: its points pay for it. -/
theorem Gap.isSome_advance {gap : Option Gap} {prev : Option Cell}
    (hpoints : ∀ cell ∈ prev, matchPoints ≤ cell.score) (h : gap.isSome ∨ prev.isSome) :
    (Gap.advance gap prev).isSome := by
  cases prev with
  | none =>
      obtain ⟨g, rfl⟩ := Option.isSome_iff_exists.mp (h.resolve_right (by simp))
      rfl
  | some cell =>
      have hscore : 16 ≤ cell.score := hpoints cell rfl
      cases gap with
      | none =>
          have hopens : 0 < cell.score - 3 := by omega
          simp [Gap.advance, hopens]
      | some g =>
          simp only [Gap.advance]
          split <;> rfl

/-- After a cell and a gap, the new cell joins the former or jumps over the latter. -/
theorem extend_some_some (g : Glyph) (cell : Cell) (gap : Gap) :
    ∃ joined run, extend g (some cell) (some gap) =
      if gap.score + g.bonus < joined then
        some ⟨joined + matchPoints, run, g.position :: cell.path⟩
      else some ⟨gap.score + g.bonus + matchPoints, g.bonus, g.position :: gap.path⟩ :=
  ⟨_, _, rfl⟩

/-- A cell that is reached leads back to the cell or to the gap before it. -/
theorem path_of_extend {g : Glyph} {prev : Option Cell} {gap : Option Gap} {cell : Cell}
    (h : extend g prev gap = some cell) :
    matchPoints ≤ cell.score ∧
      ((∃ before, prev = some before ∧ cell.path = g.position :: before.path) ∨
        ∃ before, gap = some before ∧ cell.path = g.position :: before.path) := by
  cases prev with
  | none =>
      cases gap with
      | none => cases h
      | some before =>
          cases h
          exact ⟨Nat.le_add_left _ _, .inr ⟨before, rfl, rfl⟩⟩
  | some before =>
      cases gap with
      | none =>
          cases h
          exact ⟨Nat.le_add_left _ _, .inl ⟨before, rfl, rfl⟩⟩
      | some gap =>
          obtain ⟨joined, run, heq⟩ := extend_some_some g before gap
          rw [heq] at h
          split at h <;> cases h
          · exact ⟨Nat.le_add_left _ _, .inl ⟨before, rfl, rfl⟩⟩
          · exact ⟨Nat.le_add_left _ _, .inr ⟨gap, rfl, rfl⟩⟩

/-- A cell is reached from a filled cell and from a gap. -/
theorem isSome_extend (g : Glyph) {prev : Option Cell} {gap : Option Gap}
    (h : prev.isSome ∨ gap.isSome) : (extend g prev gap).isSome := by
  cases prev with
  | none =>
      obtain ⟨before, rfl⟩ := Option.isSome_iff_exists.mp (h.resolve_left (by simp))
      rfl
  | some before =>
      cases gap with
      | none => rfl
      | some gap =>
          obtain ⟨joined, run, heq⟩ := extend_some_some g before gap
          rw [heq]
          split <;> rfl

/-! ### Rows -/

/-- Each filled cell of the row is an occurrence of the text among the glyphs before its place.
These are the ones of `seen` and as many of `gs` as there are cells before it. -/
def RowOccurs (cs : List Char) (seen gs : List Glyph) (row : List (Option Cell)) : Prop :=
  ∀ i cell, row[i]? = some (some cell) → Occurs cs (seen ++ gs.take i) cell.path.reverse

@[simp] theorem nextRow_cons (c : Char) (prev : Option Cell) (gap : Option Gap)
    (cell : Option Cell) (cells : List (Option Cell)) (g : Glyph) (gs : List Glyph) :
    nextRow c prev gap (cell :: cells) (g :: gs) =
      (if g.char = c then extend g cell (Gap.advance gap prev) else none) ::
        nextRow c cell (Gap.advance gap prev) cells gs := rfl

@[simp] theorem nextRow_nil_right (c : Char) (prev : Option Cell) (gap : Option Gap)
    (row : List (Option Cell)) : nextRow c prev gap row [] = [] := by
  cases row <;> rfl

theorem length_nextRow (c : Char) (prev : Option Cell) (gap : Option Gap)
    (row : List (Option Cell)) (gs : List Glyph) :
    (nextRow c prev gap row gs).length = min row.length gs.length := by
  fun_induction nextRow c prev gap row gs with
  | case1 prev gap cell cells g gs gap' next ih =>
      rw [List.length_cons, ih, List.length_cons, List.length_cons, Nat.add_min_add_right]
  | case2 row prev gap gs hshort =>
      cases row with
      | nil => simp
      | cons cell cells =>
          cases gs with
          | nil => simp
          | cons g gs => exact absurd rfl (hshort cell cells g gs rfl)

/-- A step keeps to occurrences: `prev` and `gap` are behind, and one glyph is added. -/
theorem RowOccurs.nextRow {cs : List Char} {row : List (Option Cell)} {gs seen : List Glyph}
    (hrow : RowOccurs cs seen gs row) (c : Char) {prev : Option Cell} {gap : Option Gap}
    (hprev : ∀ cell ∈ prev, Occurs cs seen cell.path.reverse)
    (hgap : ∀ g ∈ gap, Occurs cs seen g.path.reverse) :
    ∀ i cell, (nextRow c prev gap row gs)[i]? = some (some cell) →
      Occurs (cs ++ [c]) (seen ++ gs.take (i + 1)) cell.path.reverse := by
  induction row generalizing gs seen prev gap with
  | nil =>
      intro i cell h
      cases h
  | cons here row ih =>
      cases gs with
      | nil =>
          intro i cell h
          rw [nextRow_nil_right] at h
          cases h
      | cons g gs =>
          have hhere : ∀ cell ∈ here, Occurs cs seen cell.path.reverse := by
            rintro cell rfl
            simpa using hrow 0 cell rfl
          have hgap' : ∀ gap' ∈ Gap.advance gap prev, Occurs cs seen gap'.path.reverse := by
            intro gap' h
            obtain ⟨cell, hcell, hpath⟩ | ⟨g, hg, hpath⟩ := Gap.path_of_advance h
            · exact hpath ▸ hprev cell hcell
            · exact hpath ▸ hgap g hg
          intro i cell h
          rw [nextRow_cons] at h
          cases i with
          | zero =>
              rw [List.getElem?_cons_zero, Option.some.injEq] at h
              split at h
              case isFalse => cases h
              case isTrue hc =>
                subst hc
                obtain ⟨-, ⟨before, hbefore, hpath⟩ | ⟨before, hbefore, hpath⟩⟩ :=
                  path_of_extend h
                · simpa [hpath] using (hhere before hbefore).concat g
                · simpa [hpath] using (hgap' before hbefore).concat g
          | succ i =>
              rw [List.getElem?_cons_succ] at h
              have hwider : seen.Sublist (seen ++ [g]) := List.sublist_append_left _ _
              have hrest : RowOccurs cs (seen ++ [g]) gs row := by
                intro j cell hcell
                simpa using hrow (j + 1) cell hcell
              have hoccurs := ih hrest (fun cell hcell => (hhere cell hcell).mono hwider)
                (fun gap' hgap => (hgap' gap' hgap).mono hwider) i cell h
              simpa using hoccurs

/-- Whatever the row before is, the cells of a row have the points of a match. -/
theorem scored_nextRow (c : Char) (prev : Option Cell) (gap : Option Gap)
    (row : List (Option Cell)) (gs : List Glyph) : Scored (nextRow c prev gap row gs) := by
  fun_induction nextRow c prev gap row gs with
  | case1 prev gap here row g gs gap' next ih =>
      intro cell hcell
      rcases List.mem_cons.mp hcell with hcell | hcell
      · have hnext : next = some cell := hcell.symm
        simp only [next] at hnext
        split at hnext
        · exact (path_of_extend hnext).1
        · cases hnext
      · exact ih cell hcell
  | case2 => exact fun cell hcell => by cases hcell

/-- A cell with the right glyph is filled if the row before has a filled cell at most as far to the
right, or if there is a gap or a cell behind. -/
theorem exists_getElem?_nextRow {row : List (Option Cell)} {gs : List Glyph} {c : Char}
    (prev : Option Cell) (gap : Option Gap) (hscored : Scored row)
    (hpoints : ∀ cell ∈ prev, matchPoints ≤ cell.score) {i j : Nat} {g : Glyph}
    (hfilled : (gap.isSome ∨ prev.isSome) ∨ j ≤ i ∧ ∃ cell, row[j]? = some (some cell))
    (hi : i < row.length) (hg : gs[i]? = some g) (hc : g.char = c) :
    ∃ cell, (nextRow c prev gap row gs)[i]? = some (some cell) := by
  induction row generalizing gs prev gap i j with
  | nil => cases hi
  | cons here row ih =>
      cases gs with
      | nil => cases hg
      | cons first gs =>
          have hgap : gap.isSome ∨ prev.isSome → (Gap.advance gap prev).isSome :=
            Gap.isSome_advance hpoints
          have hhere : ∀ cell ∈ here, matchPoints ≤ cell.score := by
            rintro cell rfl
            exact hscored cell List.mem_cons_self
          rw [nextRow_cons]
          cases i with
          | zero =>
              obtain rfl : first = g := Option.some.inj hg
              have hbehind : here.isSome ∨ (Gap.advance gap prev).isSome := by
                rcases hfilled with hbehind | ⟨hj, cell, hcell⟩
                · exact .inr (hgap hbehind)
                · obtain rfl : j = 0 := Nat.le_zero.mp hj
                  obtain rfl : here = some cell := Option.some.inj hcell
                  exact .inl rfl
              obtain ⟨cell, hcell⟩ := Option.isSome_iff_exists.mp (isSome_extend first hbehind)
              exact ⟨cell, by rw [if_pos hc, hcell, List.getElem?_cons_zero]⟩
          | succ i =>
              rw [List.getElem?_cons_succ]
              have hrest : Scored row :=
                fun cell hcell => hscored cell (List.mem_cons_of_mem _ hcell)
              refine ih (j := j - 1) _ _ hrest hhere ?_ (Nat.lt_of_succ_lt_succ hi) hg
              rcases hfilled with hbehind | ⟨hj, cell, hcell⟩
              · exact .inl (.inl (hgap hbehind))
              · cases j with
                | zero =>
                    obtain rfl : here = some cell := Option.some.inj hcell
                    exact .inl (.inr rfl)
                | succ j => exact .inr ⟨Nat.le_of_succ_le_succ hj, cell, hcell⟩

/-! ### All rows -/

/-- **The cells of the last row are occurrences** of the whole needle. -/
theorem lastRow_occurs {cs done : List Char} {seen gs : List Glyph} {row : List (Option Cell)}
    (h : RowOccurs done seen gs row) {cell : Cell} (hcell : some cell ∈ lastRow row cs gs) :
    Occurs (done ++ cs) (seen ++ gs) cell.path.reverse := by
  induction cs generalizing done seen gs row with
  | nil =>
      obtain ⟨i, hi⟩ := List.mem_iff_getElem?.mp hcell
      rw [List.append_nil]
      exact (h i cell hi).mono ((List.take_sublist i gs).append_left seen)
  | cons c cs ih =>
      rw [lastRow] at hcell
      have hnext : RowOccurs (done ++ [c]) (seen ++ gs.take 1) (gs.drop 1)
          (Matching.nextRow c none none row gs) := by
        intro i cell hi
        have hoccurs := h.nextRow c (fun _ h => by cases h) (fun _ h => by cases h) i cell hi
        rwa [Nat.add_comm, List.take_add, ← List.append_assoc] at hoccurs
      have hoccurs := ih hnext hcell
      rwa [List.append_assoc, List.append_assoc, List.take_append_drop,
        List.singleton_append] at hoccurs

/-- The first character of a subsequence is found at some place, and the others behind it. -/
theorem exists_place {c : Char} {cs : List Char} {gs : List Glyph}
    (h : (c :: cs).Sublist (gs.map (·.char))) :
    ∃ i g, gs[i]? = some g ∧ g.char = c ∧ cs.Sublist ((gs.drop (i + 1)).map (·.char)) := by
  induction gs with
  | nil => cases h
  | cons first gs ih =>
      rw [List.map_cons, List.cons_sublist_cons'] at h
      rcases h with h | ⟨hc, h⟩
      · obtain ⟨i, g, hg, hc, hrest⟩ := ih h
        exact ⟨i + 1, g, hg, hc, hrest⟩
      · exact ⟨0, first, rfl, hc.symm, h⟩

/-- **The last row has a filled cell** if the rest of the needle is found behind a filled cell of
the first one. The rows are as wide as the rest of the needle leaves room for. -/
theorem exists_mem_lastRow {cs : List Char} {gs : List Glyph} {row : List (Option Cell)}
    (hscored : Scored row) (hwidth : row.length + cs.length = gs.length + 1) {j : Nat} {cell : Cell}
    (hcell : row[j]? = some (some cell)) (h : cs.Sublist ((gs.drop j).map (·.char))) :
    ∃ cell, some cell ∈ lastRow row cs gs := by
  induction cs generalizing gs row j cell with
  | nil => exact ⟨cell, List.mem_of_getElem? hcell⟩
  | cons c cs ih =>
      obtain ⟨k, g, hg, hc, hrest⟩ := exists_place h
      rw [List.getElem?_drop] at hg
      rw [List.drop_drop] at hrest
      have hlength := hrest.length_le
      rw [List.length_map, List.length_drop] at hlength
      have hplace : j + k < gs.length := (List.getElem?_eq_some_iff.mp hg).1
      rw [List.length_cons] at hwidth
      obtain ⟨next, hnext⟩ := exists_getElem?_nextRow none none hscored
        (fun _ h => by cases h) (.inr ⟨Nat.le_add_right j k, cell, hcell⟩) (by omega) hg hc
      rw [lastRow]
      refine ih (scored_nextRow c none none row gs) ?_ hnext ?_
      · rw [length_nextRow, List.length_drop]
        omega
      · rw [List.drop_drop]
        have hbehind : 1 + (j + k) = j + (k + 1) := by omega
        rwa [hbehind]

/-! ### The best occurrence -/

section Choice

variable {α β : Type} {choose : Option α → β → Option α} (offer : β → Option α)

/-- A fold that keeps what it has or takes what it is offered ends with something offered. -/
theorem exists_offer_of_foldl (hchoose : ∀ acc b, choose acc b = acc ∨ choose acc b = offer b)
    {bs : List β} {acc : Option α} {a : α} (h : bs.foldl choose acc = some a) :
    acc = some a ∨ ∃ b ∈ bs, offer b = some a := by
  induction bs generalizing acc with
  | nil => exact .inl h
  | cons b bs ih =>
      rcases ih h with hstep | ⟨b', hmem, hoffer⟩
      · rcases hchoose acc b with hold | hnew
        · exact .inl (hold ▸ hstep)
        · exact .inr ⟨b, List.mem_cons_self, hnew ▸ hstep⟩
      · exact .inr ⟨b', List.mem_cons_of_mem _ hmem, hoffer⟩

/-- It ends with something if it was offered anything. -/
theorem isSome_foldl (hchoose : ∀ acc b, acc.isSome ∨ (offer b).isSome → (choose acc b).isSome)
    {bs : List β} {acc : Option α} (h : acc.isSome ∨ ∃ b ∈ bs, (offer b).isSome) :
    (bs.foldl choose acc).isSome := by
  induction bs generalizing acc with
  | nil =>
      rcases h with h | ⟨b, hmem, -⟩
      · exact h
      · cases hmem
  | cons b bs ih =>
      refine ih ?_
      rcases h with h | ⟨b', hmem, hoffer⟩
      · exact .inl (hchoose acc b (.inl h))
      · rcases List.mem_cons.mp hmem with rfl | hmem
        · exact .inl (hchoose acc b' (.inr hoffer))
        · exact .inr ⟨b', hmem, hoffer⟩

end Choice

/-- The better of two cells, the second one if they are equal. -/
def better : Option Cell → Option Cell → Option Cell
  | none, c => c
  | some a, none => some a
  | some a, some c => if a.score ≤ c.score then some c else some a

theorem best_eq (row : List (Option Cell)) : best row = row.foldl better none := rfl

theorem better_cases (a c : Option Cell) : better a c = a ∨ better a c = c := by
  cases a with
  | none => exact .inr rfl
  | some a =>
      cases c with
      | none => exact .inl rfl
      | some c =>
          rw [better]
          split
          · exact .inr rfl
          · exact .inl rfl

theorem isSome_better (a c : Option Cell) (h : a.isSome ∨ c.isSome) : (better a c).isSome := by
  cases a with
  | none => exact h.resolve_left (by simp)
  | some a =>
      cases c with
      | none => rfl
      | some c =>
          rw [better]
          split <;> rfl

/-- The best of some cells is one of them. -/
theorem mem_of_best {row : List (Option Cell)} {cell : Cell} (h : best row = some cell) :
    some cell ∈ row := by
  rw [best_eq] at h
  rcases exists_offer_of_foldl id better_cases h with hnone | ⟨c, hmem, rfl⟩
  · cases hnone
  · exact hmem

/-- There is a best cell if there is a cell at all. -/
theorem exists_best {row : List (Option Cell)} {cell : Cell} (h : some cell ∈ row) :
    ∃ cell', best row = some cell' := by
  rw [best_eq]
  exact Option.isSome_iff_exists.mp
    (isSome_foldl id isSome_better (.inr ⟨some cell, h, rfl⟩))

theorem getElem?_firstRow (c : Char) (gs : List Glyph) (i : Nat) :
    (firstRow c gs)[i]? = gs[i]?.map fun g =>
      if g.char = c then some ⟨2 * g.bonus + matchPoints, g.bonus, [g.position]⟩ else none := by
  rw [firstRow, List.getElem?_map]

theorem scored_firstRow (c : Char) (gs : List Glyph) : Scored (firstRow c gs) := by
  intro cell hcell
  obtain ⟨g, -, hg⟩ := List.mem_map.mp hcell
  split at hg <;> cases hg
  exact Nat.le_add_left _ _

/-- A cell of the first row is an occurrence of the first character. -/
theorem rowOccurs_firstRow (c : Char) (gs : List Glyph) (width : Nat) :
    RowOccurs [c] (gs.take 1) (gs.drop 1) (firstRow c (gs.take width)) := by
  intro i cell hi
  rw [getElem?_firstRow] at hi
  obtain ⟨g, hg, hcell⟩ := Option.map_eq_some_iff.mp hi
  split at hcell <;> cases hcell
  next hc =>
    have hmem : g ∈ gs.take (i + 1) := by
      have hi : gs[i]? = some g := by
        rw [List.getElem?_take] at hg
        split at hg
        · exact hg
        · cases hg
      refine List.mem_of_getElem? (i := i) ?_
      rwa [List.getElem?_take_of_lt (Nat.lt_succ_self i)]
    rw [Nat.add_comm, List.take_add] at hmem
    subst hc
    exact Occurs.singleton hmem

/-- **What the score table finds is an occurrence.** -/
theorem occurs_of_optimal? {cs : List Char} {gs : List Glyph} {ps : List Nat}
    (h : optimal? cs gs = some ps) : Occurs cs gs ps := by
  cases cs with
  | nil =>
      cases h
      exact ⟨[], List.nil_sublist gs, rfl, rfl⟩
  | cons c rest =>
      rw [optimal?] at h
      obtain ⟨cell, hcell, rfl⟩ := Option.map_eq_some_iff.mp h
      have hoccurs := lastRow_occurs (rowOccurs_firstRow c gs _) (mem_of_best hcell)
      rwa [List.take_append_drop, List.singleton_append] at hoccurs

/-- **The score table finds an occurrence** if there is one. -/
theorem exists_optimal? {cs : List Char} {gs : List Glyph}
    (h : cs.Sublist (gs.map (·.char))) : ∃ ps, optimal? cs gs = some ps := by
  cases cs with
  | nil => exact ⟨[], rfl⟩
  | cons c rest =>
      obtain ⟨j, g, hg, hc, hrest⟩ := exists_place h
      have hlength := hrest.length_le
      rw [List.length_map, List.length_drop] at hlength
      have hplace : j < gs.length := (List.getElem?_eq_some_iff.mp hg).1
      let width := gs.length + 1 - (c :: rest).length
      have hwidth : width = gs.length - rest.length := by simp [width]
      have hcell : (firstRow c (gs.take width))[j]? =
          some (some ⟨2 * g.bonus + matchPoints, g.bonus, [g.position]⟩) := by
        rw [getElem?_firstRow, List.getElem?_take_of_lt (by omega), hg, Option.map_some, if_pos hc]
      have hfull : (firstRow c (gs.take width)).length + rest.length =
          (gs.drop 1).length + 1 := by
        rw [firstRow, List.length_map, List.length_take, List.length_drop]
        omega
      rw [Nat.add_comm, ← List.drop_drop] at hrest
      obtain ⟨last, hlast⟩ := exists_mem_lastRow (scored_firstRow c _) hfull hcell hrest
      obtain ⟨cell, hbest⟩ := exists_best hlast
      exact ⟨cell.path.reverse, by rw [optimal?, hbest, Option.map_some]⟩

end SymbolAtlas.Matching
