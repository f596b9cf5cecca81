import Mathlib.Data.List.Basic
import Mathlib.Order.RelClasses
import SymbolAtlas.Proofs.Subsequence

/-!
# A search ranks by the span of a match

A search gives every name that matches a rank and sorts by it. The rank of an exact match is the
least one; any other rank is read off the positions at which the query was matched, from the first
and the last of them. This module says which positions can stand behind a rank, and what the sort
makes of equal ranks.

Positions found in the layout of a name are positions of the name: the layout of an ASCII name has
one glyph per character, numbered from the start, with the character in lower case.

## Main results

* `Matching.embeds_of_align?`: what is found of a query in a name is a match.
* `isRank_nameRank`, `IsRank.bounds`: the rank of a name, and the range that it is in.
* `searchBy_eq_mergeSort`, `stablySorted_mergeSort`: the order of the names.
* `search_ranks_by_span`: both, of a search.
-/

namespace SymbolAtlas

/-! ### Matches of a query in a name -/

/-- Ascending positions of a name at which it spells the text, but for the case. -/
structure Embeds (text name : List Char) (ps : List Nat) : Prop where
  ascending : ps.Pairwise (· < ·)
  spells : ps.map (fun p => name[p]?.map Char.toLower) = text.map some

namespace Embeds

variable {text name : List Char} {ps : List Nat}

theorem length_eq (h : Embeds text name ps) : ps.length = text.length := by
  simpa using congrArg List.length h.spells

/-- The positions of a match are positions of the name. -/
theorem lt_length (h : Embeds text name ps) {p : Nat} (hp : p ∈ ps) : p < name.length := by
  have hmem : name[p]?.map Char.toLower ∈ text.map some :=
    h.spells ▸ List.mem_map_of_mem (f := fun p => name[p]?.map Char.toLower) hp
  obtain ⟨c, -, hc⟩ := List.mem_map.mp hmem
  obtain ⟨d, hd, -⟩ := Option.map_eq_some_iff.mp hc.symm
  exact (List.getElem?_eq_some_iff.mp hd).1

end Embeds

/-- Ascending numbers are at least as far apart as there are numbers between them. -/
theorem add_length_le_getLastD {p : Nat} {ps : List Nat} (h : (p :: ps).Pairwise (· < ·)) :
    p + ps.length ≤ ps.getLastD p := by
  induction ps generalizing p with
  | nil => simp
  | cons q ps ih =>
      have hpq : p < q := List.rel_of_pairwise_cons h List.mem_cons_self
      have hrest := ih (List.pairwise_cons.mp h).2
      rw [List.getLastD_cons, List.length_cons]
      omega

namespace Matching

/-- The glyphs of an ASCII name stand for its characters in lower case. -/
theorem getElem?_position {name : List Char} (hname : isAscii name = true) {g : Glyph}
    (hg : g ∈ glyphs name) : name[g.position]?.map Char.toLower = some g.char := by
  obtain ⟨i, hi⟩ := List.mem_iff_getElem?.mp hg
  have hchars := congrArg (·[i]?) (map_char_glyphs hname)
  rw [numbered_glyphs name i g hi]
  simpa [hi, eq_comm] using hchars

/-- **What is found of a query in an ASCII name is a match.** -/
theorem embeds_of_align? {query name : List Char} {ps : List Nat} (hname : isAscii name = true)
    (h : align? query name = some ps) : Embeds query name ps := by
  have hoccurs := occurs_of_align? hname h
  refine ⟨hoccurs.pairwise (numbered_glyphs name), ?_⟩
  obtain ⟨places, hplaces, rfl, rfl⟩ := hoccurs
  rw [List.map_map, List.map_map]
  exact List.map_congr_left fun g hg => getElem?_position hname (hplaces.subset hg)

end Matching

/-! ### Ranks -/

/-- Lower-casing an ASCII text lower-cases its characters. -/
theorem lower_of_isAscii {cs : List Char} (h : Matching.isAscii cs = true) :
    Text.lower cs = cs.map Char.toLower := by
  have hfrom (before : List Char) : Text.lowerFrom before cs = cs.map Char.toLower := by
    have hascii := Matching.isAscii_iff.mp h
    clear h
    induction cs generalizing before with
    | nil => rfl
    | cons c cs ih =>
        obtain ⟨hc, hcs⟩ := List.forall_mem_cons.mp hascii
        have hsigma : c ≠ 'Σ' := by
          rintro rfl
          exact absurd hc (by decide)
        have hdotted : c ≠ 'İ' := by
          rintro rfl
          exact absurd hc (by decide)
        rw [Text.lowerFrom, if_neg hsigma, if_neg hdotted, ih _ hcs, Text.lowerChar, if_pos hc]
        rfl
  exact hfrom []

/-- The number `rank` ranks a name for a query in lower case: it is the least rank for the name
itself, and else comes from the ends of a match, or from its place if the query is one character. -/
def IsRank (query name : List Char) (rank : Nat) : Prop :=
  if name.map Char.toLower = query then rank = 1
  else ∃ ps first last, Embeds query name ps ∧ ps.head? = some first ∧ ps.getLast? = some last ∧
    rank = if query.length = 1 then 2 + first else 2 + (last - first)

theorem isRank_nameRank {query name : List Char} {rank : Nat}
    (hname : Matching.isAscii name = true) (h : nameRank query name = some rank) :
    IsRank query name rank := by
  obtain ⟨ps, hps, h⟩ := Option.bind_eq_some_iff.mp h
  have hembeds := Matching.embeds_of_align? hname hps
  rw [lower_of_isAscii hname] at h
  rw [IsRank]
  split at h
  next hexact =>
    rw [if_pos hexact]
    exact (Option.some.inj h).symm
  next hother =>
    rw [if_neg hother]
    rw [matchRank] at h
    split at h
    next first last hfirst hlast =>
      refine ⟨ps, first, last, hembeds, hfirst, hlast, ?_⟩
      rw [hembeds.length_eq, ← apply_ite some] at h
      exact (Option.some.inj h).symm
    next => cases h

/-- Another rank than the least one of a query of several characters. -/
theorem IsRank.bounds {query name : List Char} {rank : Nat} (h : IsRank query name rank)
    (hother : name.map Char.toLower ≠ query) (hlength : 2 ≤ query.length) :
    query.length + 1 ≤ rank ∧ rank ≤ name.length + 1 := by
  rw [IsRank, if_neg hother] at h
  obtain ⟨ps, first, last, hembeds, hfirst, hlast, hrank⟩ := h
  rw [if_neg (by omega)] at hrank
  obtain ⟨rest, rfl⟩ := List.head?_eq_some_iff.mp hfirst
  have hspan := add_length_le_getLastD hembeds.ascending
  have hcount := hembeds.length_eq
  have hinside := hembeds.lt_length (List.mem_of_getLast? hlast)
  rw [List.getLast?_cons, Option.some.injEq, ← List.getLastD_eq_getLast?] at hlast
  rw [List.length_cons] at hcount
  omega

/-- The least rank is that of the name itself. -/
theorem IsRank.le_one_iff {query name : List Char} {rank : Nat} (h : IsRank query name rank) :
    rank ≤ 1 ↔ name.map Char.toLower = query := by
  rw [IsRank] at h
  split at h
  next hexact => simp [h, hexact]
  next hother =>
    obtain ⟨ps, first, last, -, -, -, hrank⟩ := h
    simp only [hother, iff_false]
    split at hrank <;> omega

/-! ### The order of a search -/

/-- The items in the order of their ranks, those of equal rank in the order in which they were
listed. -/
structure StablySorted {α : Type} (rank : α → Nat) (items found : List α) : Prop where
  perm : found.Perm items
  ascending : found.Pairwise fun a b => rank a ≤ rank b
  ties : ∀ n, found.filter (rank · = n) = items.filter (rank · = n)

theorem stablySorted_mergeSort {α : Type} (rank : α → Nat) (items : List α) :
    StablySorted rank items (items.mergeSort fun a b => rank a ≤ rank b) := by
  have htrans (a b c : α) (hab : decide (rank a ≤ rank b) = true)
      (hbc : decide (rank b ≤ rank c) = true) : decide (rank a ≤ rank c) = true := by
    simp only [decide_eq_true_eq] at hab hbc ⊢
    omega
  have htotal (a b : α) : (decide (rank a ≤ rank b) || decide (rank b ≤ rank a)) = true := by
    simp only [Bool.or_eq_true, decide_eq_true_eq]
    omega
  have hperm := List.mergeSort_perm items fun a b => decide (rank a ≤ rank b)
  refine ⟨hperm, ?_, fun n => ?_⟩
  · exact (List.pairwise_mergeSort htrans htotal items).imp of_decide_eq_true
  · -- items of one rank are in order as they are listed, so sorting keeps them as they are
    have hsame : (items.filter (rank · = n)).Pairwise
        fun a b => decide (rank a ≤ rank b) = true := by
      refine List.pairwise_of_forall_mem_list fun a ha b hb => ?_
      have hrank := (of_decide_eq_true (List.mem_filter.mp ha).2).trans
        (of_decide_eq_true (List.mem_filter.mp hb).2).symm
      exact decide_eq_true hrank.le
    have hsub :=
      (List.sublist_mergeSort htrans htotal hsame List.filter_sublist).filter (rank · = n)
    rw [List.filter_filter] at hsub
    simp only [Bool.and_self] at hsub
    exact (hsub.eq_of_length (hperm.filter _).length_eq.symm).symm

/-- A search sorts what it finds by rank. -/
theorem searchBy_eq_mergeSort {α : Type} (name : α → String) (items : List α) {query : String}
    (h : query ≠ "") :
    let rank (item : α) := nameRank (Text.lower query.toList) (name item).toList
    searchBy name items query = (items.filter fun item => (rank item).isSome).mergeSort
      fun a b => (rank a).getD 0 ≤ (rank b).getD 0 := by
  intro rank
  have hquery : query.isEmpty = false := String.isEmpty_eq_false_iff.mpr h
  have hpairs : ∀ pair ∈ items.filterMap fun item => (rank item).map fun r => (r, item),
      pair.1 = (rank pair.2).getD 0 := by
    intro pair hpair
    obtain ⟨item, -, hitem⟩ := List.mem_filterMap.mp hpair
    obtain ⟨r, hr, rfl⟩ := Option.map_eq_some_iff.mp hitem
    rw [hr, Option.getD_some]
  rw [searchBy, hquery, ← map_snd_ranked]
  refine List.map_mergeSort fun a ha b hb => ?_
  rw [hpairs a ha, hpairs b hb]

/-- The rank of a declaration in a search. -/
def searchRank (query : String) (d : Declaration) : Nat :=
  (nameRank (Text.lower query.toList) d.identifier.toList).getD 0

/-- **A search ranks by the span of a match.** The names are made of letters, digits and
underscores, of any length, and there is something to look for. What is found are the declarations
whose names contain the query in order, sorted by rank and in the order of the listing where ranks
are equal. The rank is 1 if the name is the query but for the case; otherwise the name has ascending
positions whose characters spell the query but for the case, and the rank is 2 and the distance
between the first and the last of them, or 2 and the position for a query of one character. So exact
matches come before all others, whose ranks, for a query of several characters, are more than the
length of the query and at most one more than the length of the name. -/
theorem search_ranks_by_span (snapshot : List Declaration) (query : String)
    (hnames : ∀ d ∈ snapshot, ∀ c ∈ d.identifier.toList, isTermChar c = true)
    (hquery : query ≠ "") :
    let folded := Text.lower query.toList
    let lowered (d : Declaration) := d.identifier.toList.map Char.toLower
    let matching := snapshot.filter fun d => folded.isSublist (lowered d)
    let found := search snapshot query
    StablySorted (searchRank query) matching found ∧
      (∀ d ∈ matching, IsRank folded d.identifier.toList (searchRank query d)) ∧
      (found.Pairwise fun d e => lowered e = folded → lowered d = folded) ∧
      ∀ d ∈ matching, 2 ≤ folded.length → lowered d ≠ folded →
        folded.length + 1 ≤ searchRank query d ∧ searchRank query d ≤ d.identifier.length + 1 := by
  intro folded lowered matching found
  have hfolded : folded ≠ [] :=
    lower_ne_nil fun hnil => hquery (String.toList_eq_nil_iff.mp hnil)
  have hmatching : matching =
      snapshot.filter fun d => (nameRank folded d.identifier.toList).isSome := by
    refine List.filter_congr fun d hd => ?_
    rw [Bool.eq_iff_iff, List.isSublist_iff_sublist]
    exact (isSome_nameRank_iff (isAscii_of_isTermChar (hnames d hd)) hfolded).symm
  have hranks : ∀ d ∈ matching, IsRank folded d.identifier.toList (searchRank query d) := by
    intro d hd
    rw [hmatching] at hd
    obtain ⟨hd, hsome⟩ := List.mem_filter.mp hd
    obtain ⟨rank, hrank⟩ := Option.isSome_iff_exists.mp hsome
    have heq : searchRank query d = rank := by rw [searchRank, hrank, Option.getD_some]
    rw [heq]
    exact isRank_nameRank (isAscii_of_isTermChar (hnames d hd)) hrank
  have hsorted : StablySorted (searchRank query) matching found := by
    have heq : found = _ := searchBy_eq_mergeSort Declaration.identifier snapshot hquery
    rw [heq, hmatching]
    exact stablySorted_mergeSort _ _
  refine ⟨hsorted, hranks, ?_, ?_⟩
  · refine hsorted.ascending.imp_of_mem fun {d e} hd he hle hexact => ?_
    have hd := hranks d (hsorted.perm.mem_iff.mp hd)
    have he := hranks e (hsorted.perm.mem_iff.mp he)
    exact hd.le_one_iff.mp (hle.trans (he.le_one_iff.mpr hexact))
  · intro d hd hlength hother
    have hbounds := (hranks d hd).bounds hother hlength
    rwa [String.length_toList] at hbounds

/-- Two names have the query with as much between its ends, one further apart, one is the query and
one does not have it in order. -/
theorem search_ranks_by_span_spread :
    let declaration (name : String) : Declaration :=
      ⟨name, .classLike, ⟨⟨"file:///a"⟩, "a"⟩, ⟨0, 6⟩⟩
    let snapshot := ["AxxBxxC", "x_abC", "ABC_Long", "Abc", "Cba"].map declaration
    let found := ["Abc", "x_abC", "ABC_Long", "AxxBxxC"].map declaration
    (∀ d ∈ snapshot, ∀ c ∈ d.identifier.toList, isTermChar c = true) ∧
      search snapshot "aBc" = found ∧ found.map (searchRank "aBc") = [1, 4, 4, 8] ∧
      ∀ d ∈ found, IsRank ['a', 'b', 'c'] d.identifier.toList (searchRank "aBc" d) := by
  intro declaration snapshot found
  have hall : (snapshot.all fun d => d.identifier.toList.all isTermChar) = true := by
    decide +kernel
  have hnames : ∀ d ∈ snapshot, ∀ c ∈ d.identifier.toList, isTermChar c = true :=
    fun d hd => List.all_eq_true.mp (List.all_eq_true.mp hall d hd)
  obtain ⟨hsorted, hranks, -, -⟩ := search_ranks_by_span snapshot "aBc" hnames (by decide)
  have hranked : (snapshot.filterMap fun d =>
        (nameRank (Text.lower "aBc".toList) d.identifier.toList).map fun rank => (rank, d)) =
      [(8, declaration "AxxBxxC"), (4, declaration "x_abC"), (4, declaration "ABC_Long"),
        (1, declaration "Abc")] := by decide +kernel
  have hfound : search snapshot "aBc" = found := by
    rw [search, searchBy, if_neg (by decide)]
    simp only [hranked]
    simp [List.mergeSort, found]
  refine ⟨hnames, hfound, by decide +kernel, ?_⟩
  rw [hfound] at hsorted
  intro d hd
  exact hranks d (hsorted.perm.mem_iff.mp hd)

end SymbolAtlas
