import Mathlib.Data.Fintype.EquivFin
import SymbolAtlas.Proofs.Coherence
import SymbolAtlas.Proofs.Debounce

/-!
# Operations that do not wait

Indexing the workspace and indexing single files act at once, and what waits must not get lost on
the way. Neither applies the waiting batch as it is: one filters the workspace by it and appends its
texts, the other merges the new files into it, and a failing provider takes a third way. This module
compares each with the plain meaning, in which the waiting batch is applied in its place.

The comparison is by `Service.Settles`: two states that lead to the same maps of files and let
nothing wait have the same index and the same cache.

## Main results

* `Service.exists_settles_run`: every run leaves a state that leads somewhere.
* `Service.Settles.of_rebuilt`, `Service.Settles.indexFiles`: where the two operations lead.
* `Service.indexAll_of_error`: with a failing provider, indexing the workspace is a flush.
* `immediate_operations_fold_pending`: the three comparisons, after any run.
-/

namespace SymbolAtlas

instance : Infinite Uri :=
  .of_injective Uri.mk fun _ _ h => congrArg Uri.text h

/-- Some document is never opened. -/
theorem Operation.exists_unopened (ops : List Operation) :
    ∃ u, ∀ op ∈ ops, op.opens? ≠ some u := by
  obtain ⟨u, hu⟩ := Infinite.exists_notMem_finset (ops.filterMap Operation.opens?).toFinset
  refine ⟨u, fun op hop hopens => hu ?_⟩
  exact List.mem_toFinset.mpr (List.mem_filterMap.mpr ⟨op, hop, hopens⟩)

namespace Service

variable {s t : Service} {indexed cached : UriMap FileEntry}

/-! ### Where runs lead -/

/-- **Every run leads somewhere**: what waits is well formed, and behind the index there is a map of
files. The invariant of a document that is never opened says both. -/
theorem exists_settles_run (window grace : Nat) {ops : List Operation}
    (hlists : ∀ op ∈ ops, op.ListsDistinct) :
    ∃ indexed cached, ((start window grace).run ops).Settles indexed cached := by
  obtain ⟨u, hu⟩ := Operation.exists_unopened ops
  obtain ⟨hsound, m, hm, -⟩ := coherent_run window grace hlists hu
  exact ⟨_, _, hsound, ⟨m, hm, rfl⟩, rfl⟩

/-- States that lead to the same maps and let nothing wait show the same. -/
theorem Settles.eq_of_settles (hs : s.Settles indexed cached) (ht : t.Settles indexed cached)
    (hsempty : s.pending = .empty) (htempty : t.pending = .empty) :
    s.index = t.index ∧ s.files.cache = t.files.cache := by
  obtain ⟨hsindex, hscache⟩ := hs.eq_of_pending_empty hsempty
  obtain ⟨htindex, htcache⟩ := ht.eq_of_pending_empty htempty
  exact ⟨hsindex.trans htindex.symm, hscache.trans htcache.symm⟩

/-- A flush leads to where the state leads, and lets nothing wait. -/
theorem Settles.flush (h : s.Settles indexed cached) :
    s.flush.2.Settles indexed cached ∧ s.flush.2.pending = .empty :=
  ⟨h.of_applied (applied_flush h.sound), (applied_flush h.sound).pending⟩

/-! ### The scheduler after taking -/

/-- Applying a batch leaves the scheduler alone. -/
theorem scheduler_applyBatch? (s : Service) (b : Option Batch) :
    (s.applyBatch? b).scheduler = s.scheduler := by
  cases b <;> rfl

/-- Indexing the workspace leaves nothing to wait, whatever the provider says. -/
theorem scheduler_indexAll (s : Service) (p : Provider) :
    (s.indexAll p).2.scheduler = s.drained.scheduler := by
  simp only [indexAll, takePending_eq]
  cases p.allFiles with
  | error cause => exact scheduler_applyBatch? _ _
  | ok files => rfl

/-- A drained scheduler has nothing pending. -/
theorem hasPending_of_scheduler (h : t.scheduler = s.drained.scheduler) : t.hasPending = false := by
  rw [hasPending, h]
  rfl

/-! ### Indexing the workspace -/

/-- The service after caching the files and indexing them from scratch. What waits goes on
waiting. -/
def reindexed (s : Service) (files : List FileEntry) : Service :=
  { s with files := s.files.update files, index := .ofFiles files }

/-- Reindexed, a service leads to the files with what waits on top. -/
theorem settles_reindexed (hs : s.pending.Sound) {files : List FileEntry}
    (hnodup : (files.map (·.uri)).Nodup) :
    (s.reindexed files).Settles (s.pending.overlay (UriMap.empty.putAll files))
      (s.pending.overlay (s.files.cache.putAll files)) :=
  ⟨hs, ⟨_, SymbolIndex.Shows.ofFiles hnodup, rfl⟩, rfl⟩

/-- Rebuilt with what waits folded in, a service is at the same place. -/
theorem Settles.of_rebuilt {files : List FileEntry} (h : Rebuilt files s t) :
    t.Settles (s.pending.overlay (UriMap.empty.putAll files))
      (s.pending.overlay (s.files.cache.putAll files)) := by
  rw [← h.cache]
  exact Settles.of_pending_empty h.pending h.index

/-- To the index and the cache, a flush is applying what waits. -/
theorem flush_eq_applyBatch? (s : Service) :
    s.flush.2.index = (s.applyBatch? s.takePending.1).index ∧
      s.flush.2.files = (s.applyBatch? s.takePending.1).files := by
  rw [flush, takePending_eq]
  cases s.scheduler.collector.waiting <;> exact ⟨rfl, rfl⟩

/-- **Indexing the workspace** is caching and indexing its files and then applying what waits. -/
theorem indexAll_of_ok (hs : s.pending.Sound) {p : Provider} {files : List FileEntry}
    (hfiles : p.allFiles = .ok files) (hnodup : (files.map (·.uri)).Nodup) :
    let direct := (s.reindexed files).applyBatch? s.takePending.1
    (s.indexAll p).2.index = direct.index ∧ (s.indexAll p).2.files.cache = direct.files.cache := by
  intro direct
  have hrebuilt := rebuilt_indexAll hs hfiles hnodup
  obtain ⟨hflush, hempty⟩ := (settles_reindexed hs hnodup).flush
  obtain ⟨hindex, hcache⟩ :=
    (Settles.of_rebuilt hrebuilt).eq_of_settles hflush hrebuilt.pending hempty
  obtain ⟨hindex', hfiles'⟩ := flush_eq_applyBatch? (s.reindexed files)
  exact ⟨hindex.trans hindex', hcache.trans (congrArg FileStore.cache hfiles')⟩

/-- **With a failing provider**, indexing the workspace is a flush, after noting the question. -/
theorem indexAll_of_error (s : Service) {p : Provider} {cause : ProviderError}
    (hfiles : p.allFiles = .error cause) :
    s.indexAll p = (.error cause, (s.noteCalls [.allFiles]).flush.2) := by
  simp only [indexAll, hfiles]
  rfl

/-- Notes in the journal do not change what a flush does to the rest. -/
theorem flush_noteCalls (s : Service) (calls : List Call) :
    (s.noteCalls calls).flush.2.index = s.flush.2.index ∧
      (s.noteCalls calls).flush.2.files = s.flush.2.files ∧
      (s.noteCalls calls).flush.2.scheduler = s.flush.2.scheduler := by
  obtain ⟨index, files, ⟨⟨window, waiting⟩, now, running⟩, journal⟩ := s
  cases waiting <;> exact ⟨rfl, rfl, rfl⟩

/-! ### Indexing files -/

/-- Indexing files leads to where the state leads, with the files on top. -/
theorem Settles.indexFiles (h : s.Settles indexed cached) (files : List FileEntry) :
    (s.indexFiles files).2.Settles ((Batch.of files []).overlay indexed)
      ((Batch.of files []).overlay cached) := by
  obtain ⟨hsound, ⟨m, hm, rfl⟩, rfl⟩ := h
  have happlied := applied_indexFiles hsound files
  rw [← hsound.overlay_merge, ← hsound.overlay_merge, ← happlied.cache]
  exact Settles.of_pending_empty happlied.pending (happlied.index m hm)

/-- **Indexing files** is a flush and then applying the files as a batch of their own. -/
theorem indexFiles_eq (h : s.Settles indexed cached) (files : List FileEntry) :
    let direct := s.flush.2.applyBatch (.of files [])
    (s.indexFiles files).2.index = direct.index ∧
      (s.indexFiles files).2.files.cache = direct.files.cache := by
  intro direct
  obtain ⟨hflush, hempty⟩ := h.flush
  have hdirect := hflush.applyBatch hempty (Batch.Sound.of files [])
  have happlied := applied_indexFiles h.sound files
  exact (h.indexFiles files).eq_of_settles hdirect happlied.pending hempty

end Service

/-- **What waits is applied in its place.** After any run, with any providers that list no file
twice:
* if the provider lists the workspace, each file once, then indexing the workspace answers with the
  new snapshot and leaves the index and the cache of caching and indexing the listed files and then
  applying what waits;
* if the provider fails, indexing the workspace answers with the failure and leaves the index, the
  known files and the scheduler that a flush leaves;
* indexing files leaves the index and the cache of a flush and then applying the files as a batch.

After each of the three nothing waits. -/
theorem immediate_operations_fold_pending (window grace : Nat) (ops : List Operation)
    (hlists : ∀ op ∈ ops, op.ListsDistinct) :
    let s := (Service.start window grace).run ops
    (∀ (p : Provider) (files : List FileEntry), p.allFiles = .ok files →
      (files.map (·.uri)).Nodup →
        let direct := (s.reindexed files).applyBatch? s.takePending.1
        let after := (s.indexAll p).2
        (s.indexAll p).1 = .ok after.index.snapshot ∧ after.index = direct.index ∧
          after.files.cache = direct.files.cache ∧ after.hasPending = false) ∧
      (∀ (p : Provider) (cause : ProviderError), p.allFiles = .error cause →
        let after := (s.indexAll p).2
        (s.indexAll p).1 = .error cause ∧ after.index = s.flush.2.index ∧
          after.files = s.flush.2.files ∧ after.scheduler = s.flush.2.scheduler ∧
          after.hasPending = false) ∧
      ∀ files : List FileEntry,
        let direct := s.flush.2.applyBatch (.of files [])
        let after := (s.indexFiles files).2
        after.index = direct.index ∧ after.files.cache = direct.files.cache ∧
          after.hasPending = false := by
  intro s
  obtain ⟨indexed, cached, hsettles⟩ := Service.exists_settles_run window grace hlists
  have hidle (p : Provider) : (s.indexAll p).2.hasPending = false :=
    Service.hasPending_of_scheduler (s.scheduler_indexAll p)
  refine ⟨?_, ?_, ?_⟩
  · intro p files hfiles hnodup direct after
    obtain ⟨hindex, hcache⟩ := Service.indexAll_of_ok hsettles.sound hfiles hnodup
    have hanswer : (s.indexAll p).1 = .ok after.index.snapshot := by
      simp only [after, Service.indexAll, hfiles]
    exact ⟨hanswer, hindex, hcache, hidle p⟩
  · intro p cause hfiles after
    have heq := s.indexAll_of_error hfiles
    obtain ⟨hindex, hstore, hscheduler⟩ := s.flush_noteCalls [.allFiles]
    have hafter : after = (s.noteCalls [.allFiles]).flush.2 := congrArg Prod.snd heq
    rw [hafter]
    exact ⟨congrArg Prod.fst heq, hindex, hstore, hscheduler, hafter ▸ hidle p⟩
  · intro files direct after
    obtain ⟨hindex, hcache⟩ := Service.indexFiles_eq hsettles files
    exact ⟨hindex, hcache, rfl⟩

/-- One file is edited and another one deleted, and both changes wait when the workspace is indexed,
when that fails, and when the deleted file is indexed again. -/
theorem immediate_operations_fold_pending_edited :
    let a : Uri := ⟨"file:///a"⟩
    let b : Uri := ⟨"file:///b"⟩
    let m := MemoryFiles.of [⟨a, "a", "class Foo"⟩, ⟨b, "b", "trait Bar"⟩]
    let p := m.provider
    let offline := { m with failing := true }.provider
    let s := (Service.start 150 500).run
      [.indexAll p, .changed p a "class Edited", .watched p [(b, .deleted)]]
    let again : List FileEntry := [⟨b, "b", "trait Again"⟩]
    s.hasPending = true ∧
      (s.indexAll p).2.index = ((s.reindexed m.files.values).applyBatch? s.takePending.1).index ∧
      (s.indexAll p).2.index.declarations = [⟨"Edited", .classLike, ⟨a, "a"⟩, ⟨0, 6⟩⟩] ∧
      (s.indexAll offline).2.index = s.flush.2.index ∧
      (s.indexFiles again).2.index = (s.flush.2.applyBatch (.of again [])).index := by
  intro a b m p offline s again
  have hp : p.ListsDistinct := by
    intro files hfiles
    cases hfiles
    decide
  obtain ⟨hlisted, hfailed, hfiles⟩ := immediate_operations_fold_pending 150 500
    [.indexAll p, .changed p a "class Edited", .watched p [(b, .deleted)]]
    (by simp [Operation.ListsDistinct, hp])
  have hall := hlisted p m.files.values rfl (by decide)
  have hoffline := hfailed offline (.request "getAllFiles" "provider offline") rfl
  exact ⟨by decide, hall.2.1, by decide +kernel, hoffline.2.1, (hfiles again).1⟩

end SymbolAtlas
