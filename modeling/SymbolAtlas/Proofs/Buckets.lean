import Mathlib.Data.List.Dedup
import SymbolAtlas.Proofs.History

/-!
# Two views of one generation

An index keeps its declarations twice, in buckets for look-ups by name and as a sorted list for
searches. Every call replaces both from one list, so that neither is ever ahead of the other. This
module says what that comes to for an observer, after any history of calls: also one that hands a
file over twice, where two declarations may share their place, and one that takes the last
declaration of a name away.

Nothing fixes the order in which an update meets the buckets that it drains. `IndexCall.Leaves` and
`SymbolIndex.Arises` are calls and histories with that order left open, and with the answers that
they give. The invariant is `SymbolIndex.OneGeneration`. It holds of whatever is made by
`ofDeclarations`, which is how every call ends.

## Main results

* `SymbolIndex.WellFiled.fileUnder`: filing keeps buckets apart, under the right keys and not empty.
* `SymbolIndex.oneGeneration_ofDeclarations`: the buckets and the snapshot that are made from one
  list hold the same declarations.
* `SymbolIndex.OneGeneration.keyCount_eq`: there are as many buckets as names in the snapshot.
* `lookup_and_search_agree`: look-ups, searches and counts see what the last call answered with.
-/

namespace SymbolAtlas

/-! ### Searching -/

/-- The empty query finds every item, in its order. -/
theorem searchBy_empty {α : Type} (name : α → String) (items : List α) :
    searchBy name items "" = items := rfl

/-- A search finds nothing but the items that it is given. -/
theorem mem_of_mem_searchBy {α : Type} {name : α → String} {items : List α} {query : String}
    {a : α} (h : a ∈ searchBy name items query) : a ∈ items := by
  simp only [searchBy] at h
  split at h
  · exact h
  · obtain ⟨⟨rank, b⟩, hranked, rfl⟩ := List.mem_map.mp h
    rw [List.mem_mergeSort] at hranked
    obtain ⟨item, hitem, hrank⟩ := List.mem_filterMap.mp hranked
    obtain ⟨rank', -, heq⟩ := Option.map_eq_some_iff.mp hrank
    cases heq
    exact hitem

namespace SymbolIndex

/-! ### Filing -/

/-- No key has two buckets, and every bucket holds something, all of it under its own key. -/
structure WellFiled (buckets : List (String × List Declaration)) : Prop where
  nodup : (buckets.map (·.1)).Nodup
  nonempty : ∀ b ∈ buckets, b.2 ≠ []
  key_eq : ∀ b ∈ buckets, ∀ d ∈ b.2, d.key = b.1

theorem WellFiled.nil : WellFiled [] where
  nodup := .nil
  nonempty := by simp
  key_eq := by simp

/-- Filing a declaration opens a bucket for its key at the end, unless there is one. -/
theorem map_fst_fileUnder (d : Declaration) (buckets : List (String × List Declaration)) :
    (fileUnder d buckets).map (·.1) =
      if d.key ∈ buckets.map (·.1) then buckets.map (·.1) else buckets.map (·.1) ++ [d.key] := by
  induction buckets with
  | nil => rfl
  | cons b rest ih =>
      obtain ⟨key, bucket⟩ := b
      rw [fileUnder]
      by_cases hkey : key = d.key
      · simp [hkey]
      · rw [if_neg hkey, List.map_cons, ih]
        by_cases hmem : d.key ∈ rest.map (·.1)
        · rw [if_pos hmem, List.map_cons, if_pos (List.mem_cons_of_mem _ hmem)]
        · have hnew : d.key ∉ ((key, bucket) :: rest).map (·.1) := by
            simpa [Ne.symm hkey] using hmem
          rw [if_neg hmem, if_neg hnew]
          rfl

/-- After filing a declaration a bucket is an old one, or it has the declaration's key and holds it
behind what an old bucket of that key held. -/
theorem mem_fileUnder {d : Declaration} {buckets : List (String × List Declaration)}
    {b : String × List Declaration} (h : b ∈ fileUnder d buckets) :
    b ∈ buckets ∨ b = (d.key, [d]) ∨ ∃ old, (d.key, old) ∈ buckets ∧ b = (d.key, old ++ [d]) := by
  induction buckets with
  | nil => exact .inr (.inl (List.mem_singleton.mp h))
  | cons c rest ih =>
      obtain ⟨key, bucket⟩ := c
      rw [fileUnder] at h
      split at h
      next hkey =>
        subst hkey
        rcases List.mem_cons.mp h with rfl | h
        · exact .inr (.inr ⟨bucket, List.mem_cons_self, rfl⟩)
        · exact .inl (List.mem_cons_of_mem _ h)
      next =>
        rcases List.mem_cons.mp h with rfl | h
        · exact .inl List.mem_cons_self
        · rcases ih h with hold | hnew | ⟨old, hold, heq⟩
          · exact .inl (List.mem_cons_of_mem _ hold)
          · exact .inr (.inl hnew)
          · exact .inr (.inr ⟨old, List.mem_cons_of_mem _ hold, heq⟩)

/-- **Filing a declaration** keeps buckets well filed. -/
theorem WellFiled.fileUnder {buckets : List (String × List Declaration)} (h : WellFiled buckets)
    (d : Declaration) : WellFiled (fileUnder d buckets) where
  nodup := by
    rw [map_fst_fileUnder]
    split
    next => exact h.nodup
    next hnew => exact h.nodup.append (List.nodup_singleton _) (by simpa using hnew)
  nonempty := by
    intro b hb
    rcases mem_fileUnder hb with hold | rfl | ⟨old, -, rfl⟩
    · exact h.nonempty b hold
    · simp
    · simp
  key_eq := by
    intro b hb e he
    rcases mem_fileUnder hb with hold | rfl | ⟨old, hold, rfl⟩
    · exact h.key_eq b hold e he
    · rw [List.mem_singleton.mp he]
    · rcases List.mem_append.mp he with he | he
      · exact h.key_eq _ hold e he
      · rw [List.mem_singleton.mp he]

/-- The buckets of any list are well filed. -/
theorem wellFiled_bucketsOf (ds : List Declaration) : WellFiled (bucketsOf ds) :=
  List.foldlRecOn ds _ WellFiled.nil fun _ h d _ => h.fileUnder d

/-! ### Buckets and snapshot -/

/-- Buckets and snapshot hold the same declarations, the snapshot in the order of the index and each
bucket in the order of the snapshot. -/
structure OneGeneration (index : SymbolIndex) : Prop where
  ordered : index.snapshot.Pairwise fun a b => a.indexLE b = true
  filed : WellFiled index.buckets
  drained_perm : index.drained.Perm index.snapshot
  lookup_eq : ∀ key, index.lookup key = index.snapshot.filter fun d => d.key == key

/-- **What is made from one list** is one generation. -/
theorem oneGeneration_ofDeclarations (ds : List Declaration) :
    (ofDeclarations ds).OneGeneration where
  ordered := pairwise_sorted ds
  filed := wellFiled_bucketsOf (sorted ds)
  drained_perm := (drained_ofDeclarations ds).trans (sorted_perm ds).symm
  lookup_eq := lookup_ofDeclarations ds

variable {index : SymbolIndex}

/-- The keys of the buckets are the names of the snapshot, each once. -/
theorem OneGeneration.keys_perm (h : index.OneGeneration) :
    (index.buckets.map (·.1)).Perm (index.snapshot.map (·.key)).dedup := by
  refine (List.perm_ext_iff_of_nodup h.filed.nodup (List.nodup_dedup _)).mpr ?_
  intro key
  rw [List.mem_dedup]
  constructor
  · intro hkey
    obtain ⟨b, hb, rfl⟩ := List.mem_map.mp hkey
    obtain ⟨d, hd⟩ := List.exists_mem_of_ne_nil _ (h.filed.nonempty b hb)
    have hdrained : d ∈ index.drained := List.mem_flatMap.mpr ⟨b, hb, hd⟩
    exact List.mem_map.mpr ⟨d, h.drained_perm.mem_iff.mp hdrained, h.filed.key_eq b hb d hd⟩
  · intro hkey
    obtain ⟨d, hd, rfl⟩ := List.mem_map.mp hkey
    obtain ⟨b, hb, hmem⟩ := List.mem_flatMap.mp (h.drained_perm.mem_iff.mpr hd)
    exact List.mem_map.mpr ⟨b, hb, (h.filed.key_eq b hb d hmem).symm⟩

/-- **There are as many buckets as names** in the snapshot. -/
theorem OneGeneration.keyCount_eq (h : index.OneGeneration) :
    index.keyCount = (index.snapshot.map (·.key)).dedup.length := by
  have hlength := h.keys_perm.length_eq
  rwa [List.length_map] at hlength

/-- The sizes of the buckets add up to the number of drained declarations. -/
theorem size_eq_length_drained (index : SymbolIndex) : index.size = index.drained.length := by
  rw [size, drained]
  induction index.buckets with
  | nil => rfl
  | cons b rest ih => rw [List.foldr_cons, ih, List.flatMap_cons, List.length_append]

/-- The index has as many declarations as the snapshot. -/
theorem OneGeneration.size_eq (h : index.OneGeneration) : index.size = index.snapshot.length :=
  (size_eq_length_drained index).trans h.drained_perm.length_eq

/-- The index is empty exactly if its snapshot is. -/
theorem OneGeneration.isEmpty_iff (h : index.OneGeneration) :
    index.isEmpty = true ↔ index.snapshot = [] := by
  rw [isEmpty, List.isEmpty_iff]
  constructor
  · intro hnone
    have hperm := h.drained_perm
    rw [drained, hnone] at hperm
    exact hperm.symm.eq_nil
  · intro hnone
    have hperm := h.keys_perm
    rw [hnone] at hperm
    exact List.map_eq_nil_iff.mp hperm.eq_nil

end SymbolIndex

/-! ### Histories with answers -/

/-- What a call may leave, and what it answers with: all declarations of the new generation in the
order of the index. An update meets the buckets in any order. -/
inductive IndexCall.Leaves (index : SymbolIndex) :
    IndexCall → SymbolIndex → List Declaration → Prop
  | rebuild (files : List FileEntry) :
      Leaves index (.rebuild files) (.ofFiles files) (SymbolIndex.sorted (declarationsIn files))
  | update {order : List (String × List Declaration)} (horder : order.Perm index.buckets)
      (files : List FileEntry) (removed : List Uri) :
      Leaves index (.update files removed)
        (.updateFrom (order.flatMap (·.2)) files removed)
        (SymbolIndex.sorted ((order.flatMap (·.2)).filter
          (fun d => !(files.map (·.uri) ++ removed).contains d.uri) ++ declarationsIn files))

/-- An index that a history may leave, and the last answer that it gave; the empty list is the
answer of the history without calls. -/
inductive SymbolIndex.Arises : List IndexCall → SymbolIndex → List Declaration → Prop
  | start : Arises [] .empty []
  | call {calls : List IndexCall} {c : IndexCall} {index index' : SymbolIndex}
      {earlier answer : List Declaration} (h : Arises calls index earlier)
      (hleaves : c.Leaves index index' answer) : Arises (calls ++ [c]) index' answer

/-- **Every call** leaves one generation, and its snapshot is the answer. -/
theorem IndexCall.Leaves.oneGeneration {index index' : SymbolIndex} {c : IndexCall}
    {answer : List Declaration} (h : c.Leaves index index' answer) :
    index'.OneGeneration ∧ index'.snapshot = answer := by
  cases h with
  | rebuild files => exact ⟨SymbolIndex.oneGeneration_ofDeclarations _, rfl⟩
  | update horder files removed => exact ⟨SymbolIndex.oneGeneration_ofDeclarations _, rfl⟩

/-- The index without declarations is one generation. -/
theorem SymbolIndex.oneGeneration_empty : SymbolIndex.empty.OneGeneration where
  ordered := .nil
  filed := .nil
  drained_perm := .nil
  lookup_eq := fun _ => rfl

/-- **Every history** leaves one generation, and its snapshot is the last answer. -/
theorem SymbolIndex.Arises.oneGeneration {calls : List IndexCall} {index : SymbolIndex}
    {answer : List Declaration} (h : Arises calls index answer) :
    index.OneGeneration ∧ index.snapshot = answer := by
  cases h with
  | start => exact ⟨SymbolIndex.oneGeneration_empty, rfl⟩
  | call h hleaves => exact hleaves.oneGeneration

/-- **Look-ups and searches see the same generation.** After any history of calls, whatever order
they drain the buckets in, the empty query finds the list that the last call answered with. That
list is ordered by file, then by the column, then by the line of the location; a look-up shows the
declarations of its key, in the order of the list; every bucket holds something, under its own key;
the three counts are those of the list; and no search finds anything that is not in it. -/
theorem lookup_and_search_agree (calls : List IndexCall) (index : SymbolIndex)
    (answer : List Declaration) (h : SymbolIndex.Arises calls index answer) :
    let all := index.search ""
    all = answer ∧
      all.Pairwise (fun a b => a.uri < b.uri ∨ (a.uri = b.uri ∧
        (a.location.character < b.location.character ∨
          (a.location.character = b.location.character ∧ a.location.line ≤ b.location.line)))) ∧
      (∀ key, index.lookup key = all.filter fun d => d.key == key) ∧
      (∀ b ∈ index.buckets, b.2 ≠ [] ∧ ∀ d ∈ b.2, d.key = b.1) ∧
      index.size = all.length ∧
      index.keyCount = (all.map (·.key)).dedup.length ∧
      (index.isEmpty = true ↔ all = []) ∧
      ∀ query, ∀ d ∈ index.search query, d ∈ all := by
  intro all
  obtain ⟨hgeneration, hanswer⟩ := h.oneGeneration
  have hall : all = index.snapshot := searchBy_empty Declaration.identifier index.snapshot
  have hfiled := hgeneration.filed
  rw [hall]
  refine ⟨hanswer, hgeneration.ordered.imp Declaration.location_le_of_indexLE,
    hgeneration.lookup_eq, ?_, hgeneration.size_eq, hgeneration.keyCount_eq,
    hgeneration.isEmpty_iff, ?_⟩
  · exact fun b hb => ⟨hfiled.nonempty b hb, hfiled.key_eq b hb⟩
  · exact fun query d hd => mem_of_mem_searchBy hd

/-- Two texts of one file are handed over at once, and then the only other file is dropped, with the
three buckets drained in the opposite order: two names are left, at one place. -/
theorem lookup_and_search_agree_twice :
    let a : Uri := ⟨"file:///a"⟩
    let b : Uri := ⟨"file:///b"⟩
    let files : List FileEntry :=
      [⟨a, "a", "class Foo"⟩, ⟨a, "a", "class Bar"⟩, ⟨b, "b", "trait Baz"⟩]
    let index := SymbolIndex.updateFrom
      ((SymbolIndex.ofFiles files).buckets.reverse.flatMap (·.2)) [] [b]
    let foo : Declaration := ⟨"Foo", .classLike, ⟨a, "a"⟩, ⟨0, 6⟩⟩
    let bar : Declaration := ⟨"Bar", .classLike, ⟨a, "a"⟩, ⟨0, 6⟩⟩
    (∃ answer, SymbolIndex.Arises [.rebuild files, .update [] [b]] index answer) ∧
      index.search "" = [bar, foo] ∧ index.lookup foo.key = [foo] ∧ index.keyCount = 2 := by
  intro a b files index foo bar
  have hfirst := SymbolIndex.Arises.start.call (.rebuild files)
  have harises := hfirst.call (.update (SymbolIndex.ofFiles files).buckets.reverse_perm [] [b])
  obtain ⟨-, -, hlookup, -, -, hcount, -, -⟩ := lookup_and_search_agree _ _ _ harises
  have hall : index.search "" = [bar, foo] := by
    have hfiles : SymbolIndex.sorted (declarationsIn files) = declarationsIn files :=
      SymbolIndex.sorted_eq_self (by decide +kernel)
    have hdrained : ((SymbolIndex.bucketsOf (declarationsIn files)).reverse.flatMap (·.2)).filter
        (fun d => !List.contains [b] d.uri) = [bar, foo] := by decide +kernel
    change SymbolIndex.sorted (((SymbolIndex.bucketsOf (SymbolIndex.sorted (declarationsIn
      files))).reverse.flatMap (·.2)).filter (fun d => !List.contains [b] d.uri) ++ []) = _
    rw [hfiles, hdrained]
    exact SymbolIndex.sorted_eq_self (by decide +kernel)
  refine ⟨⟨_, harises⟩, hall, ?_, ?_⟩
  · rw [hlookup, hall]
    decide
  · rw [hcount, hall]
    decide

end SymbolAtlas
