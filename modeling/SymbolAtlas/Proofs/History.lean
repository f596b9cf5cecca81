import SymbolAtlas.Proofs.FileMap
import SymbolAtlas.Proofs.Generation

/-!
# Histories of the index

An index is built by a history of calls: some discard everything and index a list of files, others
replace some files and drop others. Replaying the history on a map of files tells which files are
behind the index at its end. The invariant that carries every history is
`SymbolIndex.Shows index m`: the index is the one that is made from the files of `m` at once.

A call that replaces files drains the buckets, drops what is stale and sorts again, so the list that
it starts from is in no particular order. That this order is not seen rests on
`SymbolIndex.ofDeclarations_eq_of_perm`.

## Main results

* `SymbolIndex.Shows.update`: one incremental update indexes the updated map of files.
* `SymbolIndex.Shows.foldl_run`: so does every history.
* `history_agrees_with_rebuild`: no observer tells a history from indexing its files once, in any
  order.
-/

namespace SymbolAtlas

/-! ### Calls -/

/-- A change of the index. -/
inductive IndexCall where
  | rebuild (files : List FileEntry)
  | update (files : List FileEntry) (removed : List Uri)

namespace IndexCall

/-- The files that the call hands over. -/
def files : IndexCall → List FileEntry
  | .rebuild files => files
  | .update files _ => files

/-- The call hands over no file twice. -/
def Distinct (c : IndexCall) : Prop := (c.files.map (·.uri)).Nodup

/-- The index after the call. -/
def run (index : SymbolIndex) : IndexCall → SymbolIndex
  | .rebuild files => .ofFiles files
  | .update files removed => index.update files removed

/-- The files behind the index after the call: all are replaced, or some are dropped and then
some are set. -/
def replay (m : UriMap FileEntry) : IndexCall → UriMap FileEntry
  | .rebuild files => UriMap.empty.putAll files
  | .update files removed => (m.eraseAll removed).putAll files

end IndexCall

/-! ### The files behind an index -/

/-- After an update the files are those that were neither replaced nor dropped, and the new ones. -/
theorem UriMap.Keyed.values_update_perm {m : UriMap FileEntry} (hkeyed : m.Keyed)
    {files : List FileEntry} (hnodup : (files.map (·.uri)).Nodup) (removed : List Uri) :
    ((m.eraseAll removed).putAll files).values.Perm
      (m.values.filter (fun f => !(files.map (·.uri) ++ removed).contains f.uri) ++ files) := by
  have hkeyed' := (hkeyed.eraseAll removed).putAll files
  have hold : m.values.Nodup := .of_map _ hkeyed.nodup_uris
  have hnew : files.Nodup := .of_map _ hnodup
  refine (List.perm_ext_iff_of_nodup (.of_map _ hkeyed'.nodup_uris) ?_).mpr ?_
  · refine List.nodup_append.mpr ⟨hold.filter _, hnew, ?_⟩
    intro f hf g hg heq
    subst heq
    have hstale := (List.mem_filter.mp hf).2
    simp only [List.contains_iff_mem, Bool.not_eq_true', List.mem_append, not_or,
      ← Bool.not_eq_true] at hstale
    exact hstale.1 (List.mem_map_of_mem hg)
  · intro f
    rw [hkeyed'.mem_values_iff, get?_putAll, Option.or_eq_some_iff, latest?_eq_some_iff hnodup,
      latest?_eq_none_iff, get?_eraseAll, List.mem_append, List.mem_filter, hkeyed.mem_values_iff]
    by_cases hremoved : f.uri ∈ removed
    · simp [hremoved]
    · simp [hremoved, or_comm, and_comm]

namespace SymbolIndex

/-- The index is the one that is made from the files of the map at once. -/
structure Shows (index : SymbolIndex) (m : UriMap FileEntry) : Prop where
  keyed : m.Keyed
  eq : index = ofFiles m.values

theorem Shows.empty : SymbolIndex.empty.Shows .empty := by
  refine ⟨UriMap.keyed_empty, ?_⟩
  have hsorted : sorted [] = [] := List.mergeSort_nil
  change SymbolIndex.empty = ⟨bucketsOf (sorted []), sorted []⟩
  rw [hsorted]
  rfl

/-- Indexing a list of files indexes the map that they are entered into. -/
theorem Shows.ofFiles {files : List FileEntry} (hnodup : (files.map (·.uri)).Nodup) :
    (SymbolIndex.ofFiles files).Shows (UriMap.empty.putAll files) :=
  ⟨UriMap.keyed_empty.putAll files,
    ofFiles_eq_of_perm (UriMap.values_putAll_empty_perm hnodup).symm hnodup⟩

/-- **One incremental update** indexes the updated map of files. -/
theorem Shows.update {index : SymbolIndex} {m : UriMap FileEntry} (h : index.Shows m)
    {files : List FileEntry} (hnodup : (files.map (·.uri)).Nodup) (removed : List Uri) :
    (index.update files removed).Shows ((m.eraseAll removed).putAll files) := by
  obtain ⟨hkeyed, rfl⟩ := h
  have hkeyed' := (hkeyed.eraseAll removed).putAll files
  refine ⟨hkeyed', ?_⟩
  have hkept := (drained_ofDeclarations (declarationsIn m.values)).filter
    (fun d => !(files.map (·.uri) ++ removed).contains d.uri)
  rw [filter_declarationsIn m.values (fun u => !(files.map (·.uri) ++ removed).contains u)]
    at hkept
  have hfiles := (hkeyed.values_update_perm hnodup removed).flatMap_right FileEntry.declarations
  rw [List.flatMap_append] at hfiles
  have hperm := hfiles.trans (hkept.symm.append_right (declarationsIn files))
  exact (ofDeclarations_eq_of_perm hperm (nodup_places_declarationsIn hkeyed'.nodup_uris)).symm

/-- One call indexes the replayed map of files. -/
theorem Shows.run {index : SymbolIndex} {m : UriMap FileEntry} (h : index.Shows m)
    {c : IndexCall} (hc : c.Distinct) : (c.run index).Shows (c.replay m) := by
  cases c with
  | rebuild files => exact Shows.ofFiles hc
  | update files removed => exact h.update hc removed

/-- **Every history** indexes the replayed map of files. -/
theorem Shows.foldl_run {index : SymbolIndex} {m : UriMap FileEntry} (h : index.Shows m)
    {calls : List IndexCall} (hcalls : ∀ c ∈ calls, c.Distinct) :
    (calls.foldl IndexCall.run index).Shows (calls.foldl IndexCall.replay m) := by
  induction calls generalizing index m with
  | nil => exact h
  | cons c calls ih =>
      have hstep := h.run (hcalls c List.mem_cons_self)
      exact ih hstep fun d hd => hcalls d (List.mem_cons_of_mem _ hd)

/-- An index that some history builds whose calls hand over no file twice. -/
def Reachable (index : SymbolIndex) : Prop :=
  ∃ calls : List IndexCall, (∀ c ∈ calls, c.Distinct) ∧
    calls.foldl IndexCall.run SymbolIndex.empty = index

/-- Behind every reachable index there is a map of files. -/
theorem Reachable.exists_shows {index : SymbolIndex} (h : index.Reachable) :
    ∃ m, index.Shows m := by
  obtain ⟨calls, hcalls, rfl⟩ := h
  exact ⟨_, Shows.empty.foldl_run hcalls⟩

/-- The index is the same if its files are listed in another order. -/
theorem Shows.eq_of_perm {index : SymbolIndex} {m : UriMap FileEntry} (h : index.Shows m)
    {listing : List FileEntry} (hperm : listing.Perm m.values) :
    index = SymbolIndex.ofFiles listing :=
  h.eq.trans (ofFiles_eq_of_perm hperm.symm h.keyed.nodup_uris)

end SymbolIndex

/-- **Incremental indexing equals indexing from scratch.** After any history of calls that hand over
no file twice, the index agrees with one that indexes the files of the replayed map at once, listed
in any order: by name, in every search, in its declarations, in its three counts, and in the
snapshot, which is what the last call answers with. -/
theorem history_agrees_with_rebuild (calls : List IndexCall) (hcalls : ∀ c ∈ calls, c.Distinct)
    (listing : List FileEntry)
    (hlisting : listing.Perm (calls.foldl IndexCall.replay UriMap.empty).values) :
    let index := calls.foldl IndexCall.run SymbolIndex.empty
    let fresh := SymbolIndex.ofFiles listing
    (∀ key, index.lookup key = fresh.lookup key) ∧
      (∀ query, index.search query = fresh.search query) ∧
      index.declarations = fresh.declarations ∧
      index.size = fresh.size ∧ index.keyCount = fresh.keyCount ∧
      index.isEmpty = fresh.isEmpty ∧ index.snapshot = fresh.snapshot := by
  intro index fresh
  have heq : index = fresh := (SymbolIndex.Shows.empty.foldl_run hcalls).eq_of_perm hlisting
  rw [heq]
  exact ⟨fun _ => rfl, fun _ => rfl, rfl, rfl, rfl, rfl, rfl⟩

/-- A history in which one call replaces a file that it also drops. -/
def overlappingHistory : List IndexCall :=
  [.rebuild [⟨⟨"file:///a"⟩, "a", "class Foo"⟩, ⟨⟨"file:///b"⟩, "b", "trait Bar"⟩,
      ⟨⟨"file:///c"⟩, "c", "val lost = 1"⟩],
    .update [⟨⟨"file:///b"⟩, "b", "object Bar"⟩] [⟨"file:///b"⟩, ⟨"file:///c"⟩]]

/-- The overlapping history agrees with indexing its two files in descending order. -/
theorem overlappingHistory_agrees :
    let listing : List FileEntry :=
      [⟨⟨"file:///b"⟩, "b", "object Bar"⟩, ⟨⟨"file:///a"⟩, "a", "class Foo"⟩]
    (∀ c ∈ overlappingHistory, c.Distinct) ∧
      listing.Perm (overlappingHistory.foldl IndexCall.replay UriMap.empty).values ∧
      (overlappingHistory.foldl IndexCall.run SymbolIndex.empty).declarations =
        (SymbolIndex.ofFiles listing).declarations := by
  have hcalls : ∀ c ∈ overlappingHistory, c.Distinct := by
    simp only [IndexCall.Distinct]
    decide
  exact ⟨hcalls, by decide, (history_agrees_with_rebuild _ hcalls _ (by decide)).2.2.1⟩

end SymbolAtlas
