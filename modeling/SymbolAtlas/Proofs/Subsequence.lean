import Mathlib.Data.Char
import Mathlib.Data.List.Pairwise
import Mathlib.Order.RelClasses
import SymbolAtlas.Search
import SymbolAtlas.Proofs.Occurrence
import SymbolAtlas.Proofs.ScoreTable

/-!
# A search finds the names that contain the query in order

`positions?` has a branch for needles that are as long as the name, one for single characters, one
for a frame without freedom, one for the score table and one for names that are too long for it.
Each of them finds an occurrence if there is one, and nothing else.

Before the last three the name is cut down to a window of positions. A window keeps an occurrence
whose positions all lie within its bounds, and positions ascend along an occurrence, so that its
first and its last position are all that has to be compared. The glyphs of a name are numbered; this
ties positions to places.

## Main results

* `Occurs.window`: windows keep occurrences.
* `occurs_of_positions?`, `exists_positions?`: all branches, soundness and completeness.
* `exists_align?_iff`: an ASCII name matches if the query is a subsequence of it in lower case.
* `search_perm_filter`: what a search finds.
-/

namespace SymbolAtlas

namespace Matching

/-! ### Numbered glyphs -/

/-- Every glyph stands at the position that it says. -/
def Numbered (gs : List Glyph) : Prop := ∀ (i : Nat) (g : Glyph), gs[i]? = some g → g.position = i

theorem position_glyphsFrom {cs : List Char} {prev : CharClass} {n i : Nat} {g : Glyph}
    (h : (glyphsFrom prev n cs)[i]? = some g) : g.position = n + i := by
  induction cs generalizing prev n i with
  | nil => cases h
  | cons c cs ih =>
      cases i with
      | zero =>
          cases h
          rfl
      | succ i =>
          have hposition := ih h
          omega

theorem numbered_glyphs (name : List Char) : Numbered (glyphs name) := by
  intro i g h
  rw [position_glyphsFrom h, Nat.zero_add]

namespace Numbered

variable {gs : List Glyph}

/-- Positions ascend along the glyphs. -/
theorem pairwise (h : Numbered gs) : gs.Pairwise fun a b => a.position < b.position := by
  rw [List.pairwise_iff_getElem]
  intro i j hi hj hij
  rwa [h i _ (List.getElem?_eq_getElem hi), h j _ (List.getElem?_eq_getElem hj)]

theorem position_of_mem_take (h : Numbered gs) {k : Nat} {g : Glyph} (hg : g ∈ gs.take k) :
    g.position < k := by
  obtain ⟨i, hi, rfl⟩ := List.mem_take_iff_getElem.mp hg
  rw [h i _ (List.getElem?_eq_getElem (by omega))]
  omega

theorem position_of_mem_drop (h : Numbered gs) {k : Nat} {g : Glyph} (hg : g ∈ gs.drop k) :
    k ≤ g.position := by
  obtain ⟨i, hi, rfl⟩ := List.mem_drop_iff_getElem.mp hg
  rw [h (k + i) _ (List.getElem?_eq_getElem (by omega))]
  omega

end Numbered

theorem window_sublist (first last : Nat) (gs : List Glyph) : (window first last gs).Sublist gs :=
  (List.take_sublist _ _).trans (List.drop_sublist _ _)

/-- A window ends at its last position. -/
theorem position_of_mem_window {gs : List Glyph} (hnum : Numbered gs) {first last : Nat} {g : Glyph}
    (hg : g ∈ window first last gs) : g.position ≤ last := by
  obtain ⟨i, hi, rfl⟩ := List.mem_take_iff_getElem.mp hg
  rw [List.length_drop] at hi
  rw [List.getElem_drop, hnum (first + i) _ (List.getElem?_eq_getElem (by omega))]
  omega

/-! ### Occurrences and windows -/

namespace Occurs

variable {cs : List Char} {gs : List Glyph} {ps : List Nat}

/-- The positions of an occurrence are those of some of the glyphs. -/
theorem exists_glyph (h : Occurs cs gs ps) {p : Nat} (hp : p ∈ ps) : ∃ g ∈ gs, g.position = p := by
  obtain ⟨places, hplaces, -, rfl⟩ := h
  obtain ⟨g, hg, rfl⟩ := List.mem_map.mp hp
  exact ⟨g, hplaces.subset hg, rfl⟩

/-- Positions ascend along an occurrence. -/
theorem pairwise (h : Occurs cs gs ps) (hnum : Numbered gs) : ps.Pairwise (· < ·) := by
  obtain ⟨places, hplaces, -, rfl⟩ := h
  exact List.pairwise_map.mpr (hnum.pairwise.sublist hplaces)

/-- The first position of an occurrence is the least one. -/
theorem headD_le (h : Occurs cs gs ps) (hnum : Numbered gs) {p : Nat} (hp : p ∈ ps) (d : Nat) :
    ps.headD d ≤ p := by
  have hpairwise := h.pairwise hnum
  cases ps with
  | nil => cases hp
  | cons q ps =>
      rcases List.mem_cons.mp hp with rfl | hp
      · exact le_rfl
      · exact (List.rel_of_pairwise_cons hpairwise hp).le

/-- The last position of an occurrence is the greatest one. -/
theorem le_getLastD (h : Occurs cs gs ps) (hnum : Numbered gs) {p : Nat} (hp : p ∈ ps) (d : Nat) :
    p ≤ ps.getLastD d := by
  have hle : ps.Pairwise (· ≤ ·) := (h.pairwise hnum).imp Nat.le_of_lt
  have hlast : ps.getLastD d = ps.getLast (List.ne_nil_of_mem hp) := by
    rw [List.getLastD_eq_getLast?, List.getLast?_eq_some_getLast (List.ne_nil_of_mem hp),
      Option.getD_some]
  rw [hlast]
  exact hle.rel_getLast hp

/-- The glyph at the end of an occurrence. -/
theorem exists_last {c : Char} (h : Occurs (c :: cs) gs ps) (d : Nat) :
    ∃ g ∈ gs, g.char = cs.getLastD c ∧ g.position = ps.getLastD d := by
  obtain ⟨places, hplaces, hchars, rfl⟩ := h
  have hne : places ≠ [] := by
    rintro rfl
    cases hchars
  have hlast : places.getLast? = some (places.getLast hne) := List.getLast?_eq_some_getLast hne
  refine ⟨places.getLast hne, hplaces.subset (List.getLast_mem hne), ?_, ?_⟩
  · have hchar : (places.map (·.char)).getLast? = some (places.getLast hne).char := by
      rw [List.getLast?_map, hlast, Option.map_some]
    rw [hchars, List.getLast?_cons, ← List.getLastD_eq_getLast?] at hchar
    exact (Option.some.inj hchar).symm
  · rw [List.getLastD_eq_getLast?, List.getLast?_map, hlast, Option.map_some, Option.getD_some]

/-- **A window keeps an occurrence** within its bounds. -/
theorem window (h : Occurs cs gs ps) (hnum : Numbered gs) {first last : Nat}
    (hbounds : ∀ p ∈ ps, first ≤ p ∧ p ≤ last) : Occurs cs (window first last gs) ps := by
  obtain ⟨places, hplaces, hchars, hpositions⟩ := h
  let within (g : Glyph) : Bool := first ≤ g.position ∧ g.position ≤ last
  have hall : places.filter within = places := by
    refine List.filter_eq_self.mpr fun g hg => decide_eq_true ?_
    exact hbounds g.position (hpositions ▸ List.mem_map_of_mem hg)
  have hbefore : (gs.take first).filter within = [] := by
    refine List.filter_eq_nil_iff.mpr fun g hg => ?_
    have := hnum.position_of_mem_take hg
    simp only [within, decide_eq_true_eq]
    omega
  have hafter : ((gs.drop first).drop (last + 1 - first)).filter within = [] := by
    refine List.filter_eq_nil_iff.mpr fun g hg => ?_
    rw [List.drop_drop] at hg
    have := hnum.position_of_mem_drop hg
    simp only [within, decide_eq_true_eq]
    omega
  have hsplit : gs = gs.take first ++ (Matching.window first last gs ++
      (gs.drop first).drop (last + 1 - first)) := by
    rw [Matching.window, List.take_append_drop, List.take_append_drop]
  have hkept : gs.filter within = (Matching.window first last gs).filter within := by
    conv_lhs => rw [hsplit]
    rw [List.filter_append, List.filter_append, hbefore, hafter, List.nil_append, List.append_nil]
  refine ⟨places, ?_, hchars, hpositions⟩
  rw [← hall]
  exact (hplaces.filter within).trans (hkept ▸ List.filter_sublist)

end Occurs

/-! ### The branches -/

theorem occurs_of_tightened? {cs : List Char} {gs : List Glyph} {first last : Nat} {ps : List Nat}
    (h : tightened? cs first last gs = some ps) : Occurs cs gs ps := by
  obtain ⟨back, -, hforth⟩ := Option.bind_eq_some_iff.mp h
  exact (occurs_of_leftmost? hforth).mono (window_sublist _ _ _)

/-- **Tightening an occurrence** leaves one: what is found backwards lies between its own first
position and the end of the window. -/
theorem exists_tightened? {cs : List Char} {gs : List Glyph} {found : List Nat}
    (h : Occurs cs gs found) (hnum : Numbered gs) {first last : Nat}
    (hbounds : ∀ p ∈ found, first ≤ p ∧ p ≤ last) :
    ∃ ps, tightened? cs first last gs = some ps := by
  have hback := (h.window hnum hbounds).reverse.sublist
  obtain ⟨back, hback⟩ := exists_leftmost? hback
  have hoccurs : Occurs cs (window first last gs) back.reverse := by
    simpa using (occurs_of_leftmost? hback).reverse
  have hall : Occurs cs gs back.reverse := hoccurs.mono (window_sublist _ _ _)
  have hstart : back.getLastD first = back.reverse.headD first := by
    rw [List.getLastD_eq_getLast?, List.headD_eq_head?_getD, List.head?_reverse]
  have hwithin : ∀ p ∈ back.reverse, back.getLastD first ≤ p ∧ p ≤ last := by
    intro p hp
    obtain ⟨g, hg, rfl⟩ := hoccurs.exists_glyph hp
    exact ⟨hstart ▸ hall.headD_le hnum hp first, position_of_mem_window hnum hg⟩
  obtain ⟨ps, hps⟩ := exists_leftmost? (hall.window hnum hwithin).sublist
  refine ⟨ps, ?_⟩
  rw [tightened?, hback]
  exact hps

/-- The place of a character is not before any other one. -/
theorem exists_lastPlace? {gs : List Glyph} (hnum : Numbered gs) {g : Glyph} (hg : g ∈ gs) :
    ∃ n, lastPlace? g.char gs = some n ∧ g.position ≤ n := by
  have hsome : (gs.reverse.find? fun g' => g'.char == g.char).isSome :=
    List.find?_isSome.mpr ⟨g, List.mem_reverse.mpr hg, beq_self_eq_true _⟩
  obtain ⟨last, hlast⟩ := Option.isSome_iff_exists.mp hsome
  refine ⟨last.position, by rw [lastPlace?, hlast, Option.map_some], ?_⟩
  obtain ⟨-, before, after, hsplit, hbefore⟩ := List.find?_eq_some_iff_append.mp hlast
  have hdescending : gs.reverse.Pairwise fun a b => b.position < a.position :=
    List.pairwise_reverse.mpr hnum.pairwise
  have hmem : g ∈ gs.reverse := List.mem_reverse.mpr hg
  rw [hsplit] at hmem hdescending
  rcases List.mem_append.mp hmem with hmem | hmem
  · have hother := hbefore g hmem
    simp at hother
  · rcases List.mem_cons.mp hmem with rfl | hmem
    · exact le_rfl
    · exact (List.rel_of_pairwise_cons (List.pairwise_append.mp hdescending).2.1 hmem).le

/-- The first of two glyphs unless the second one has a greater bonus. -/
def worthier (acc : Option Glyph) (g : Glyph) : Option Glyph :=
  match acc with
  | none => some g
  | some a => if a.bonus < g.bonus then some g else some a

theorem firstBest_eq (gs : List Glyph) : firstBest gs = gs.foldl worthier none := rfl

theorem worthier_cases (a : Option Glyph) (g : Glyph) :
    worthier a g = a ∨ worthier a g = some g := by
  cases a with
  | none => exact .inr rfl
  | some a =>
      rw [worthier]
      split
      · exact .inr rfl
      · exact .inl rfl

theorem mem_of_firstBest {gs : List Glyph} {g : Glyph} (h : firstBest gs = some g) : g ∈ gs := by
  rw [firstBest_eq] at h
  rcases exists_offer_of_foldl some worthier_cases h with hnone | ⟨g', hmem, heq⟩
  · cases hnone
  · cases heq
    exact hmem

theorem exists_firstBest {gs : List Glyph} (h : gs ≠ []) : ∃ g, firstBest gs = some g := by
  obtain ⟨g, hg⟩ := List.exists_mem_of_ne_nil gs h
  have hworthier (a : Option Glyph) (b : Glyph) (_ : a.isSome ∨ (some b).isSome) :
      (worthier a b).isSome := by
    cases a with
    | none => rfl
    | some a =>
        rw [worthier]
        split <;> rfl
  rw [firstBest_eq]
  exact Option.isSome_iff_exists.mp (isSome_foldl some hworthier (.inr ⟨g, hg, rfl⟩))

/-- Other bonuses do not move a glyph. -/
@[simp] theorem map_position_chained (prev : CharClass) (gs : List Glyph) :
    (chained prev gs).map (·.position) = gs.map (·.position) := by
  induction gs generalizing prev with
  | nil => rfl
  | cons g gs ih => rw [chained, List.map_cons, ih, List.map_cons]

/-- What `single?` chooses from: the places of the character, with one or another bonus. -/
theorem single?_eq (ascii : Bool) (c : Char) (gs : List Glyph) :
    ∃ places : List Glyph, single? ascii c gs = (firstBest places).map (·.position) ∧
      places.map (·.position) = (gs.filter fun g => g.char == c).map (·.position) := by
  cases ascii with
  | true => exact ⟨_, rfl, rfl⟩
  | false => exact ⟨_, rfl, map_position_chained _ _⟩

theorem occurs_of_single? {ascii : Bool} {c : Char} {gs : List Glyph} {p : Nat}
    (h : single? ascii c gs = some p) : Occurs [c] gs [p] := by
  obtain ⟨places, heq, hpositions⟩ := single?_eq ascii c gs
  rw [heq] at h
  obtain ⟨best, hbest, rfl⟩ := Option.map_eq_some_iff.mp h
  have hmem : best.position ∈ places.map (·.position) :=
    List.mem_map_of_mem (mem_of_firstBest hbest)
  rw [hpositions] at hmem
  obtain ⟨g, hg, hposition⟩ := List.mem_map.mp hmem
  obtain ⟨hg, hc⟩ := List.mem_filter.mp hg
  rw [← hposition, ← beq_iff_eq.mp hc]
  exact Occurs.singleton hg

theorem exists_single? (ascii : Bool) {c : Char} {gs : List Glyph}
    (h : c ∈ gs.map (·.char)) : ∃ p, single? ascii c gs = some p := by
  obtain ⟨g, hg, rfl⟩ := List.mem_map.mp h
  obtain ⟨places, heq, hpositions⟩ := single?_eq ascii g.char gs
  have hne : places ≠ [] := by
    rintro rfl
    have hmem : g ∈ gs.filter fun g' => g'.char == g.char :=
      List.mem_filter.mpr ⟨hg, beq_self_eq_true _⟩
    rw [List.map_eq_nil_iff.mp hpositions.symm] at hmem
    cases hmem
  obtain ⟨best, hbest⟩ := exists_firstBest hne
  exact ⟨best.position, by rw [heq, hbest, Option.map_some]⟩

/-- **Whatever branch finds it**, what is found is an occurrence. -/
theorem occurs_of_positions? {ascii : Bool} {cs : List Char} {gs : List Glyph} {ps : List Nat}
    (h : positions? ascii cs gs = some ps) : Occurs cs gs ps := by
  unfold positions? at h
  split at h
  · cases h
  split at h
  · split at h <;> cases h
    next hchars => exact ⟨gs, .refl gs, hchars, rfl⟩
  split at h
  · cases h
  · obtain ⟨p, hp, rfl⟩ := Option.map_eq_some_iff.mp h
    exact occurs_of_single? hp
  · obtain ⟨found, hfound, h⟩ := Option.bind_eq_some_iff.mp h
    obtain ⟨finish, -, h⟩ := Option.bind_eq_some_iff.mp h
    generalize (if ascii = true then 1 else 4) = glyphBytes at h
    dsimp only at h
    split at h
    · cases h
      exact occurs_of_leftmost? hfound
    split at h
    · exact occurs_of_tightened? h
    · exact (occurs_of_optimal? h).mono (window_sublist _ _ _)

/-- **No branch misses an occurrence.** -/
theorem exists_positions? {ascii : Bool} {cs : List Char} {gs : List Glyph} (hnum : Numbered gs)
    (hne : cs ≠ []) (h : cs.Sublist (gs.map (·.char))) :
    ∃ ps, positions? ascii cs gs = some ps := by
  have hlength := h.length_le
  rw [List.length_map] at hlength
  unfold positions?
  rw [if_neg (by omega)]
  split
  next heq =>
    have hchars : gs.map (·.char) = cs := (h.eq_of_length (by rw [List.length_map, heq])).symm
    exact ⟨_, if_pos hchars⟩
  next hshorter =>
    cases cs with
    | nil => exact absurd rfl hne
    | cons c rest =>
        cases rest with
        | nil =>
            obtain ⟨p, hp⟩ := exists_single? ascii (List.singleton_sublist.mp h)
            exact ⟨[p], by simp only [hp, Option.map_some]⟩
        | cons d rest =>
            -- the frame reaches from the start of the leftmost occurrence to the last place of the
            -- last character, which the leftmost occurrence does not pass
            obtain ⟨found, hfound⟩ := exists_leftmost? h
            have hoccurs := occurs_of_leftmost? hfound
            obtain ⟨g, hg, hchar, hposition⟩ := hoccurs.exists_last 0
            obtain ⟨finish, hfinish, hle⟩ := exists_lastPlace? hnum hg
            rw [hchar] at hfinish
            have hstart : ∀ p ∈ found, found.headD 0 ≤ p := fun p hp => hoccurs.headD_le hnum hp 0
            have hframe : ∀ p ∈ found, found.headD 0 ≤ p ∧ p ≤ finish := by
              intro p hp
              have hlast := hoccurs.le_getLastD hnum hp 0
              exact ⟨hstart p hp, by omega⟩
            simp only [hfound, hfinish, bind, Option.bind_some]
            generalize (if ascii = true then 1 else 4) = glyphBytes
            split
            · exact ⟨found, rfl⟩
            split
            · exact exists_tightened? hoccurs hnum fun p hp =>
                ⟨hstart p hp, hoccurs.le_getLastD hnum hp _⟩
            · exact exists_optimal? (hoccurs.window hnum hframe).sublist

/-! ### Names -/

theorem map_char_glyphsFrom (prev : CharClass) (n : Nat) (cs : List Char) :
    (glyphsFrom prev n cs).map (·.char) = cs.map Text.fold := by
  induction cs generalizing prev n with
  | nil => rfl
  | cons c cs ih => rw [glyphsFrom, List.map_cons, ih, List.map_cons]

/-- Folding an ASCII character is lower-casing it. -/
theorem fold_eq_toLower {c : Char} (h : c.toNat < 0x80) : Text.fold c = c.toLower := by
  have hall : ∀ n < 0x80, Text.fold (.ofNat n) = (Char.ofNat n).toLower := by decide +kernel
  simpa only [Char.ofNat_toNat] using hall c.toNat h

/-- The lower-case form of an ASCII character is one. -/
theorem toNat_toLower_lt {c : Char} (h : c.toNat < 0x80) : c.toLower.toNat < 0x80 := by
  have hall : ∀ n < 0x80, (Char.ofNat n).toLower.toNat < 0x80 := by decide +kernel
  simpa only [Char.ofNat_toNat] using hall c.toNat h

theorem isAscii_iff {cs : List Char} : isAscii cs = true ↔ ∀ c ∈ cs, c.toNat < 0x80 := by
  simp [isAscii]

/-- The characters of an ASCII name that take part in the comparison. -/
theorem map_char_glyphs {name : List Char} (h : isAscii name = true) :
    (glyphs name).map (·.char) = name.map Char.toLower := by
  rw [glyphs, visible, if_pos h, map_char_glyphsFrom]
  exact List.map_congr_left fun c hc => fold_eq_toLower (isAscii_iff.mp h c hc)

/-- What is found of a query in an ASCII name is an occurrence, and the query is ASCII. -/
theorem occurs_of_align? {query name : List Char} {ps : List Nat} (hname : isAscii name = true)
    (h : align? query name = some ps) : Occurs query (glyphs name) ps := by
  rw [align?, hname, Bool.true_and] at h
  cases hascii : isAscii query with
  | false =>
      rw [hascii] at h
      cases h
  | true =>
      have hneedle : needle query = query := if_pos hascii
      rw [hascii, hneedle] at h
      exact occurs_of_positions? h

/-- **An ASCII name matches** if the query is a subsequence of it in lower case. -/
theorem exists_align?_iff {query name : List Char} (hname : isAscii name = true)
    (hquery : query ≠ []) :
    (∃ ps, align? query name = some ps) ↔ query.Sublist (name.map Char.toLower) := by
  rw [← map_char_glyphs hname]
  constructor
  · rintro ⟨ps, hps⟩
    exact (occurs_of_align? hname hps).sublist
  · intro hsub
    have hascii : isAscii query = true := by
      rw [map_char_glyphs hname] at hsub
      refine isAscii_iff.mpr fun c hc => ?_
      obtain ⟨d, hd, rfl⟩ := List.mem_map.mp (hsub.subset hc)
      exact toNat_toLower_lt (isAscii_iff.mp hname d hd)
    have hneedle : needle query = query := if_pos hascii
    rw [align?, hname, hascii, hneedle]
    exact exists_positions? (numbered_glyphs name) hquery hsub

end Matching

/-! ### Ranks -/

/-- Only the absence of positions has no rank. -/
theorem isSome_matchRank {ps : List Nat} (h : ps ≠ []) : (matchRank ps).isSome := by
  cases ps with
  | nil => exact absurd rfl h
  | cons p ps =>
      rw [matchRank, List.head?_cons, List.getLast?_cons]
      dsimp only
      split <;> rfl

/-- An ASCII name has a rank if the query is a subsequence of it in lower case. -/
theorem isSome_nameRank_iff {query name : List Char} (hname : Matching.isAscii name = true)
    (hquery : query ≠ []) :
    (nameRank query name).isSome ↔ query.Sublist (name.map Char.toLower) := by
  rw [← Matching.exists_align?_iff hname hquery]
  constructor
  · intro hrank
    obtain ⟨rank, hrank⟩ := Option.isSome_iff_exists.mp hrank
    obtain ⟨ps, hps, -⟩ := Option.bind_eq_some_iff.mp hrank
    exact ⟨ps, hps⟩
  · rintro ⟨ps, hps⟩
    have hne : ps ≠ [] := by
      have hlength := (Matching.occurs_of_align? hname hps).length_eq
      have hpositive := List.length_pos_iff.mpr hquery
      exact List.length_pos_iff.mp (by omega)
    simp only [nameRank, hps, bind, Option.bind_some]
    split
    · rfl
    · exact isSome_matchRank hne

/-! ### Searches -/

/-- Lower-casing leaves something of every character. -/
theorem lower_ne_nil {cs : List Char} (h : cs ≠ []) : Text.lower cs ≠ [] := by
  cases cs with
  | nil => exact absurd rfl h
  | cons c cs =>
      rw [Text.lower, Text.lowerFrom]
      refine List.append_ne_nil_of_left_ne_nil ?_ _
      split
      · exact List.cons_ne_nil _ _
      · split <;> exact List.cons_ne_nil _ _

/-- The items that have a rank, with their ranks. -/
theorem map_snd_ranked {α : Type} (rank : α → Option Nat) (items : List α) :
    (items.filterMap fun item => (rank item).map fun r => (r, item)).map (·.2) =
      items.filter fun item => (rank item).isSome := by
  rw [List.map_filterMap, ← List.filterMap_eq_filter]
  refine List.filterMap_congr fun item _ => ?_
  cases hrank : rank item <;> simp [Option.guard, hrank]

/-- A search finds each item whose name has a rank, once for each time that it is listed. -/
theorem searchBy_perm {α : Type} (name : α → String) (items : List α) {query : String}
    (h : query ≠ "") :
    (searchBy name items query).Perm
      (items.filter fun item =>
        (nameRank (Text.lower query.toList) (name item).toList).isSome) := by
  have hquery : query.isEmpty = false := String.isEmpty_eq_false_iff.mpr h
  rw [searchBy, hquery, ← map_snd_ranked]
  exact (List.mergeSort_perm _ _).map _

/-- A text of letters, digits and underscores is ASCII. -/
theorem isAscii_of_isTermChar {cs : List Char} (h : ∀ c ∈ cs, isTermChar c = true) :
    Matching.isAscii cs = true :=
  Matching.isAscii_iff.mpr fun c hc => toNat_lt_of_isTermChar (h c hc)

/-- The identifiers of declarations consist of letters, digits and underscores. -/
theorem isTermChar_of_mem_declarations {f : FileEntry} {d : Declaration}
    (hd : d ∈ f.declarations) {c : Char} (hc : c ∈ d.identifier.toList) : isTermChar c = true := by
  obtain ⟨-, k, -, line, -, before, after, -, -, hident⟩ := FileEntry.mem_declarations hd
  exact (identifier_of_found hident).2.1 c hc

/-- **A search finds exactly the names that contain the query in order.** The names are those that
declarations have, made of letters, digits and underscores, of any length. What a search with
something to look for finds is, up to the order, the listing without the declarations whose name in
lower case does not have the query in lower case as a subsequence. So each of the others is found,
once for each time that it is listed. -/
theorem search_perm_filter :
    (∀ f : FileEntry, ∀ d ∈ f.declarations, ∀ c ∈ d.identifier.toList, isTermChar c = true) ∧
      ∀ (snapshot : List Declaration) (query : String),
        (∀ d ∈ snapshot, ∀ c ∈ d.identifier.toList, isTermChar c = true) → query ≠ "" →
        (search snapshot query).Perm (snapshot.filter fun d =>
          (Text.lower query.toList).isSublist (d.identifier.toList.map Char.toLower)) := by
  refine ⟨fun f d hd c hc => isTermChar_of_mem_declarations hd hc, ?_⟩
  intro snapshot query hnames hquery
  have hlower : Text.lower query.toList ≠ [] :=
    lower_ne_nil fun hnil => hquery (String.toList_eq_nil_iff.mp hnil)
  have hmatches : ∀ d ∈ snapshot,
      (nameRank (Text.lower query.toList) d.identifier.toList).isSome =
        (Text.lower query.toList).isSublist (d.identifier.toList.map Char.toLower) := by
    intro d hd
    rw [Bool.eq_iff_iff, List.isSublist_iff_sublist]
    exact isSome_nameRank_iff (isAscii_of_isTermChar (hnames d hd)) hlower
  have hperm := searchBy_perm Declaration.identifier snapshot hquery
  rwa [List.filter_congr hmatches] at hperm

/-- The first and the last character of a name are looked for, in the other case, and everything in
between makes the name too long for the score table. -/
theorem search_perm_filter_long :
    let name := 'A' :: (List.replicate 70000 'x' ++ ['b', '_'])
    let d : Declaration := ⟨String.ofList name, .classLike, ⟨⟨"file:///a"⟩, "a"⟩, ⟨0, 6⟩⟩
    let e : Declaration := ⟨"bxA", .classLike, ⟨⟨"file:///b"⟩, "b"⟩, ⟨0, 6⟩⟩
    Matching.tooLarge 1 70002 2 = true ∧ (search [d, e, d] "aB").Perm [d, d] := by
  intro name d e
  refine ⟨by decide, ?_⟩
  have htoList : d.identifier.toList = name := String.toList_ofList
  have hname : ∀ c ∈ d.identifier.toList, isTermChar c = true := by
    intro c hc
    rw [htoList, List.mem_cons, List.mem_append, List.mem_replicate] at hc
    rcases hc with rfl | ⟨-, rfl⟩ | hc
    · decide
    · decide
    · exact List.all_eq_true.mp (by decide : ['b', '_'].all isTermChar = true) c hc
  have hother : ∀ c ∈ e.identifier.toList, isTermChar c = true :=
    List.all_eq_true.mp (by decide)
  have hsub : (Text.lower "aB".toList).isSublist (d.identifier.toList.map Char.toLower) = true := by
    rw [List.isSublist_iff_sublist, htoList, List.map_cons, List.map_append]
    exact .cons_cons 'a' ((List.sublist_append_left ['b'] ['_']).trans
      (List.sublist_append_right _ _))
  have hperm := search_perm_filter.2 [d, e, d] "aB" (by
    simp only [List.forall_mem_cons]
    exact ⟨hname, hother, hname, List.forall_mem_nil _⟩) (by decide)
  have hout : ¬(Text.lower "aB".toList).isSublist
      (e.identifier.toList.map Char.toLower) = true := by decide
  rwa [List.filter_cons, if_pos hsub, List.filter_cons, if_neg hout, List.filter_cons, if_pos hsub,
    List.filter_nil] at hperm

end SymbolAtlas
