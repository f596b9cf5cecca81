import Mathlib.Data.List.Induction
import Mathlib.Data.List.Nodup
import SymbolAtlas.Proofs.Buckets
import SymbolAtlas.Proofs.ShortTexts

/-!
# The order of draining

An update drains the buckets, and nothing fixes the order in which it meets them. It sorts
afterwards by file, column and line, and sorting keeps the order of declarations that agree in all
three. So the order of draining stays hidden if no two drained declarations share their place, which
in texts of less than `2 ^ 32` code units is to share their location. It stays hidden even if the
files that the update hands over repeat an identifier: what they declare is filed behind what was
drained, in an order that does not depend on the buckets.

## Main results

* `SymbolIndex.atPlace_sorted`: sorting keeps the order of declarations at one place.
* `SymbolIndex.sorted_append_eq_of_perm`: sorting forgets the order of declarations at different
  places, whatever stands behind them.
* `SymbolIndex.Arises.eq_foldl`: a history leaves the same index in whatever order its calls drain.
* `drain_order_unseen`: the order is seen neither by the next update nor in the declarations.
-/

namespace SymbolAtlas

/-! ### Sorting is stable -/

namespace Declaration

/-- A place is a file, a line and a column. -/
theorem place_eq_iff {a b : Declaration} : a.place = b.place ↔ a.uri = b.uri ∧
    a.position.line = b.position.line ∧ a.position.character = b.position.character := by
  obtain ⟨-, -, -, ⟨line, character⟩⟩ := a
  obtain ⟨-, -, -, ⟨line', character'⟩⟩ := b
  simp [place]

/-- Declarations at one place come before each other. -/
theorem indexLE_of_place_eq {a b : Declaration} (h : a.place = b.place) : a.indexLE b = true := by
  obtain ⟨huri, hline, hcharacter⟩ := place_eq_iff.mp h
  rw [indexLE_iff]
  simp only [location, Position.stored, huri, hline, hcharacter, true_and, Nat.le_refl, or_true]

end Declaration

namespace SymbolIndex

/-- The declarations of a list at one place. -/
def atPlace (ds : List Declaration) (place : Uri × Position) : List Declaration :=
  ds.filter fun d => d.place == place

theorem mem_atPlace {ds : List Declaration} {place : Uri × Position} {d : Declaration} :
    d ∈ atPlace ds place ↔ d ∈ ds ∧ d.place = place := by
  rw [atPlace, List.mem_filter, beq_iff_eq]

/-- **Sorting keeps the order** of declarations at one place. -/
theorem atPlace_sorted (ds : List Declaration) (place : Uri × Position) :
    atPlace (sorted ds) place = atPlace ds place := by
  have hsame : (atPlace ds place).Pairwise fun a b => a.indexLE b = true := by
    refine List.pairwise_of_forall_mem_list fun a ha b hb => ?_
    exact Declaration.indexLE_of_place_eq
      ((mem_atPlace.mp ha).2.trans (mem_atPlace.mp hb).2.symm)
  have hsub : (atPlace ds place).Sublist (sorted ds) :=
    List.sublist_mergeSort Declaration.indexLE_trans Declaration.indexLE_total hsame
      List.filter_sublist
  have hfiltered : (atPlace ds place).Sublist (atPlace (sorted ds) place) := by
    have hagain := hsub.filter fun d => d.place == place
    simp only [atPlace, List.filter_filter, Bool.and_self] at hagain
    exact hagain
  have hlength : (atPlace (sorted ds) place).length = (atPlace ds place).length :=
    ((sorted_perm ds).filter _).length_eq
  exact (hfiltered.eq_of_length hlength.symm).symm

/-- Ordered lists that agree at every place are equal. -/
theorem eq_of_atPlace_eq {ds es : List Declaration}
    (hds : ds.Pairwise fun a b => a.indexLE b = true)
    (hes : es.Pairwise fun a b => a.indexLE b = true)
    (h : ∀ place, atPlace ds place = atPlace es place) : ds = es := by
  induction ds generalizing es with
  | nil =>
      refine (List.eq_nil_iff_forall_not_mem.mpr fun e he => ?_).symm
      have hmem : e ∈ atPlace [] e.place := h e.place ▸ mem_atPlace.mpr ⟨he, rfl⟩
      simp [atPlace] at hmem
  | cons d ds ih =>
      have hd : d ∈ es := (mem_atPlace.mp (h d.place ▸ mem_atPlace.mpr ⟨List.mem_cons_self, rfl⟩)).1
      cases es with
      | nil => simp at hd
      | cons e es =>
          have he : e ∈ d :: ds :=
            (mem_atPlace.mp ((h e.place).symm ▸ mem_atPlace.mpr ⟨List.mem_cons_self, rfl⟩)).1
          -- each of the two heads comes before the other one, so they stand at one place
          have hplace : d.place = e.place := by
            rcases List.mem_cons.mp he with rfl | he'
            · rfl
            · rcases List.mem_cons.mp hd with rfl | hd'
              · rfl
              · exact Declaration.place_eq_of_indexLE (List.rel_of_pairwise_cons hds he')
                  (List.rel_of_pairwise_cons hes hd')
          have hheads := h d.place
          simp only [atPlace, List.filter_cons, hplace, BEq.rfl, if_true, List.cons.injEq] at hheads
          obtain ⟨rfl, -⟩ := hheads
          have htails (place : Uri × Position) : atPlace ds place = atPlace es place := by
            have hboth := h place
            simp only [atPlace, List.filter_cons] at hboth ⊢
            split at hboth
            · exact (List.cons.inj hboth).2
            · exact hboth
          rw [ih (List.pairwise_cons.mp hds).2 (List.pairwise_cons.mp hes).2 htails]

/-- Declarations at different places leave no choice at a place. -/
theorem atPlace_eq_of_perm {ds es : List Declaration} (hperm : ds.Perm es)
    (hplaces : (ds.map (·.place)).Nodup) (place : Uri × Position) :
    atPlace ds place = atPlace es place := by
  have hlength : (atPlace ds place).length ≤ 1 := by
    have hcount := List.nodup_iff_count_le_one.mp hplaces place
    rwa [List.count, List.countP_map, List.countP_eq_length_filter] at hcount
  have hfiltered : (atPlace ds place).Perm (atPlace es place) := hperm.filter _
  cases hds : atPlace ds place with
  | nil =>
      rw [hds] at hfiltered
      exact hfiltered.symm.eq_nil.symm
  | cons d rest =>
      rw [hds] at hfiltered hlength
      have hrest : rest = [] := List.length_eq_zero_iff.mp (by simpa using hlength)
      subst hrest
      exact (List.perm_singleton.mp hfiltered.symm).symm

/-- **Sorting forgets the order** of declarations at different places, whatever stands behind
them. -/
theorem sorted_append_eq_of_perm {ds es : List Declaration} (hperm : ds.Perm es)
    (hplaces : (ds.map (·.place)).Nodup) (new : List Declaration) :
    sorted (ds ++ new) = sorted (es ++ new) := by
  refine eq_of_atPlace_eq (pairwise_sorted _) (pairwise_sorted _) fun place => ?_
  have hsame := atPlace_eq_of_perm hperm hplaces place
  rw [atPlace_sorted, atPlace_sorted]
  simp only [atPlace, List.filter_append] at hsame ⊢
  rw [hsame]

/-! ### Draining in any order -/

/-- An update that starts from declarations at different places does not see their order. -/
theorem updateFrom_eq_of_perm {old old' : List Declaration} (hperm : old.Perm old')
    (hplaces : (old.map (·.place)).Nodup) (files : List FileEntry) (removed : List Uri) :
    updateFrom old files removed = updateFrom old' files removed := by
  let fresh (d : Declaration) : Bool := !(files.map (·.uri) ++ removed).contains d.uri
  have hkept : (old.filter fresh).Perm (old'.filter fresh) := hperm.filter fresh
  have hdistinct : ((old.filter fresh).map (·.place)).Nodup :=
    hplaces.sublist (List.filter_sublist.map _)
  have hsorted := sorted_append_eq_of_perm hkept hdistinct (declarationsIn files)
  simp only [updateFrom, ofDeclarations]
  rw [hsorted]

/-- The buckets of an index behind which there is a map of files hold no two declarations at one
place. -/
theorem Shows.nodup_drained {index : SymbolIndex} {m : UriMap FileEntry} (h : index.Shows m) :
    (index.drained.map (·.place)).Nodup := by
  obtain ⟨hkeyed, rfl⟩ := h
  have hperm := drained_ofDeclarations (declarationsIn m.values)
  exact (hperm.map _).nodup_iff.mpr (nodup_places_declarationsIn hkeyed.nodup_uris)

/-- Draining the buckets in another order gives the same declarations. -/
theorem flatMap_perm_drained {index : SymbolIndex} {order : List (String × List Declaration)}
    (horder : order.Perm index.buckets) : (order.flatMap (·.2)).Perm index.drained :=
  horder.flatMap_right _

/-- **An update does not see the order** in which the buckets are drained. -/
theorem Shows.updateFrom_eq {index : SymbolIndex} {m : UriMap FileEntry} (h : index.Shows m)
    {order : List (String × List Declaration)} (horder : order.Perm index.buckets)
    (files : List FileEntry) (removed : List Uri) :
    updateFrom (order.flatMap (·.2)) files removed = index.update files removed := by
  have hperm := (flatMap_perm_drained horder).symm
  exact (updateFrom_eq_of_perm hperm h.nodup_drained files removed).symm

/-- The sorted declarations do not show the order in which the buckets are drained. -/
theorem Shows.sorted_eq {index : SymbolIndex} {m : UriMap FileEntry} (h : index.Shows m)
    {order : List (String × List Declaration)} (horder : order.Perm index.buckets) :
    sorted (order.flatMap (·.2)) = index.declarations :=
  (sorted_eq_of_perm (flatMap_perm_drained horder).symm h.nodup_drained).symm

/-! ### Histories in any order -/

/-- One order of draining is that of the listed buckets. -/
theorem leaves_run (index : SymbolIndex) (c : IndexCall) :
    c.Leaves index (c.run index) (c.run index).snapshot := by
  cases c with
  | rebuild files => exact .rebuild files
  | update files removed => exact .update (.refl _) files removed

/-- Every history leaves an index and answers with its snapshot. -/
theorem arises_foldl (calls : List IndexCall) :
    let index := calls.foldl IndexCall.run .empty
    Arises calls index index.snapshot := by
  induction calls using List.reverseRecOn with
  | nil => exact .start
  | append_singleton calls c ih =>
      rw [List.foldl_append]
      exact .call ih (leaves_run _ c)

/-- **A call leaves one index**, in whatever order it drains, if there is a map of files behind the
index that it starts from. -/
theorem Shows.eq_run {index index' : SymbolIndex} {m : UriMap FileEntry} (h : index.Shows m)
    {c : IndexCall} {answer : List Declaration} (hleaves : c.Leaves index index' answer) :
    index' = c.run index := by
  cases hleaves with
  | rebuild files => rfl
  | update horder files removed => exact h.updateFrom_eq horder files removed

/-- **A history leaves one index**, in whatever order its calls drain. -/
theorem Arises.eq_foldl {calls : List IndexCall} {index : SymbolIndex}
    {answer : List Declaration} (h : Arises calls index answer)
    (hcalls : ∀ c ∈ calls, c.Distinct) : index = calls.foldl IndexCall.run .empty := by
  induction h with
  | start => rfl
  | @call calls c index index' _ _ _ hleaves ih =>
      have hearlier : ∀ c ∈ calls, c.Distinct := fun c hc => hcalls c (List.mem_append_left _ hc)
      have hindex := ih hearlier
      subst hindex
      rw [List.foldl_append, (Shows.empty.foldl_run hearlier).eq_run hleaves]
      rfl

end SymbolIndex

/-- **The order of draining is not seen.** Files with different identifiers declare everything at
places of its own, and at locations of its own if their texts have less than `2 ^ 32` code units. So
a history whose calls hand over no file twice leaves one index and gives one last answer, whatever
order each of its calls drains the buckets in. The same holds of every update after it, also of one
that hands a file over twice: one order leaves the same buckets and the same snapshot as another and
gives the same answer. And the sorted declarations are the same. -/
theorem drain_order_unseen (calls : List IndexCall) (hcalls : ∀ c ∈ calls, c.Distinct) :
    let index := calls.foldl IndexCall.run SymbolIndex.empty
    (∀ files : List FileEntry, (files.map (·.uri)).Nodup →
      ((declarationsIn files).Pairwise fun a b => ¬(a.uri = b.uri ∧
        a.position.line = b.position.line ∧ a.position.character = b.position.character)) ∧
      ((∀ f ∈ files, f.Short) → (declarationsIn files).Pairwise fun a b => ¬(a.uri = b.uri ∧
        a.location.line = b.location.line ∧ a.location.character = b.location.character))) ∧
      (∀ index' answer, SymbolIndex.Arises calls index' answer ↔
        index' = index ∧ answer = index.snapshot) ∧
      (∀ files removed index' answer,
        (IndexCall.update files removed).Leaves index index' answer ↔
          index' = index.update files removed ∧
            answer = (index.update files removed).snapshot) ∧
      ∀ order : List (String × List Declaration), order.Perm index.buckets →
        SymbolIndex.sorted (order.flatMap (·.2)) = index.declarations := by
  intro index
  have hshows := SymbolIndex.Shows.empty.foldl_run hcalls
  refine ⟨?_, ?_, ?_, fun order horder => hshows.sorted_eq horder⟩
  · intro files hnodup
    have hpositions := (List.pairwise_map.mp (nodup_places_declarationsIn hnodup)).imp
      fun hplaces hsame => hplaces (Declaration.place_eq_iff.mpr hsame)
    refine ⟨hpositions, fun hshort => hpositions.imp_of_mem fun ha hb hne => ?_⟩
    rwa [location_eq_of_mem_declarationsIn hshort ha, location_eq_of_mem_declarationsIn hshort hb]
  · intro index' answer
    constructor
    · intro h
      obtain rfl : index' = index := h.eq_foldl hcalls
      exact ⟨rfl, h.oneGeneration.2.symm⟩
    · rintro ⟨rfl, rfl⟩
      exact SymbolIndex.arises_foldl calls
  · intro files removed index' answer
    constructor
    · intro h
      obtain rfl : index' = index.update files removed := hshows.eq_run h
      exact ⟨rfl, h.oneGeneration.2.symm⟩
    · rintro ⟨rfl, rfl⟩
      exact SymbolIndex.leaves_run index (.update files removed)

/-- Two buckets are drained in the opposite order by an update that hands one file over twice. -/
theorem drain_order_unseen_reversed :
    let calls : List IndexCall := [.rebuild [⟨⟨"file:///a"⟩, "a", "class Foo"⟩,
      ⟨⟨"file:///b"⟩, "b", "trait Bar"⟩]]
    let index := calls.foldl IndexCall.run SymbolIndex.empty
    let files : List FileEntry :=
      [⟨⟨"file:///b"⟩, "b", "val one = 1"⟩, ⟨⟨"file:///b"⟩, "b", "val two = 2"⟩]
    (∀ c ∈ calls, c.Distinct) ∧
      index.buckets.map (·.1) = ["__SCALA_SYMBOL__Foo", "__SCALA_SYMBOL__Bar"] ∧
      SymbolIndex.updateFrom (index.buckets.reverse.flatMap (·.2)) files [] =
        index.update files [] := by
  intro calls index files
  have hcalls : ∀ c ∈ calls, c.Distinct := by
    simp only [IndexCall.Distinct]
    decide
  obtain ⟨-, -, hupdate, -⟩ := drain_order_unseen calls hcalls
  have hleaves := (hupdate files [] _ _).mp (.update index.buckets.reverse_perm files [])
  have hfiled : index.buckets.map (·.1) = ["__SCALA_SYMBOL__Foo", "__SCALA_SYMBOL__Bar"] := by
    change (SymbolIndex.bucketsOf (SymbolIndex.sorted (declarationsIn (calls.flatMap
      IndexCall.files)))).map (·.1) = _
    rw [SymbolIndex.sorted_eq_self (by decide +kernel)]
    decide +kernel
  exact ⟨hcalls, hfiled, hleaves.1⟩

end SymbolAtlas
