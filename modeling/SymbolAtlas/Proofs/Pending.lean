import SymbolAtlas.Proofs.History
import SymbolAtlas.Proofs.LastWord
import SymbolAtlas.Service

/-!
# What waits for the index

Of the state of the service three things matter to what ends up indexed: the index, the cache and
the batch that waits. This module names the third, says what scheduling, flushing and the timer do
to the three, and leaves clock, marks and journal out of sight. Whoever takes the waiting batch and
applies it, alone or with more merged into it, leaves a state that `Service.Applied` describes.

## Main results

* `Service.pending_schedule`: an arrival is merged into what waits.
* `Service.applied_flush`, `Service.settle_cases`: a flush applies what waits, and the timer applies
  it or does nothing.
-/

namespace SymbolAtlas

namespace Service

/-- What waits for the index: the empty batch if nothing does. -/
def pending (s : Service) : Batch :=
  match s.scheduler.collector.waiting with
  | none => .empty
  | some w => w.batch

/-- Nothing waits if the service says so. -/
theorem pending_eq_empty {s : Service} (h : s.hasPending = false) : s.pending = .empty := by
  rw [hasPending, Scheduler.hasPending, Collector.isIdle] at h
  rw [pending]
  cases hwaiting : s.scheduler.collector.waiting with
  | none => rfl
  | some w => simp [hwaiting] at h

/-- **An arrival is merged into what waits.** -/
theorem pending_schedule (s : Service) (files : List FileEntry) (deleted : List Uri) :
    (s.schedule files deleted).pending = s.pending.merge files deleted := by
  rw [schedule, Scheduler.schedule]
  split
  next hnone =>
    -- an arrival without files and deletions is not handed on, and merging it changes nothing
    simp only [Bool.and_eq_true, List.isEmpty_iff] at hnone
    rw [hnone.1, hnone.2]
    rfl
  next => rfl

/-! ### Applying a batch -/

/-- The state `s'` is `s` after the batch `b` was applied, with nothing left to wait. -/
structure Applied (b : Batch) (s s' : Service) : Prop where
  pending : s'.pending = .empty
  index : ∀ m, s.index.Shows m → s'.index.Shows (b.overlay m)
  cache : s'.files.cache = b.overlay s.files.cache

/-- Applying a batch updates the files behind the index. -/
theorem index_applyBatch {s : Service} {b : Batch} (hb : b.Sound) {m : UriMap FileEntry}
    (h : s.index.Shows m) : (s.applyBatch b).index.Shows (b.overlay m) :=
  h.update hb.nodup_fileList b.deletedList

/-- Applying a batch updates the cache in the same way. -/
theorem cache_applyBatch {b : Batch} (hb : b.Sound) (s : Service) :
    (s.applyBatch b).files.cache = b.overlay s.files.cache :=
  hb.eraseAll_putAll s.files.cache

/-- A service that waits for nothing applies a batch. -/
theorem applied_applyBatch {s : Service} {b : Batch} (hb : b.Sound) (h : s.pending = .empty) :
    Applied b s (s.applyBatch b) :=
  ⟨h, fun _ hm => index_applyBatch hb hm, cache_applyBatch hb s⟩

/-! ### Taking what waits -/

/-- The service without what waits. -/
def drained (s : Service) : Service :=
  { s with scheduler.collector.waiting := none }

/-- Taking the waiting batch leaves the drained service. -/
theorem takePending_eq (s : Service) :
    s.takePending = (s.scheduler.collector.waiting.map Waiting.batch, s.drained) := rfl

/-- The batch that is taken, as far as there is one, is what waits. -/
theorem getD_waiting (s : Service) :
    (s.scheduler.collector.waiting.map Waiting.batch).getD .empty = s.pending := by
  rw [pending]
  cases s.scheduler.collector.waiting <;> rfl

/-- Taking what waits and applying a batch. -/
theorem applied_drained_applyBatch {b : Batch} (hb : b.Sound) (s : Service) :
    Applied b s (s.drained.applyBatch b) := by
  have h : Applied b s.drained (s.drained.applyBatch b) := applied_applyBatch hb rfl
  exact ⟨h.pending, h.index, h.cache⟩

/-- Taking what waits and applying it by itself. -/
theorem applied_drained {s : Service} (hs : s.pending.Sound) :
    Applied s.pending s
      (s.drained.applyBatch? (s.scheduler.collector.waiting.map Waiting.batch)) := by
  rw [pending] at hs ⊢
  cases hwaiting : s.scheduler.collector.waiting with
  | none => exact ⟨rfl, fun _ hm => hm, rfl⟩
  | some w =>
      rw [hwaiting] at hs
      exact applied_drained_applyBatch hs s

/-- **A flush applies what waits.** -/
theorem applied_flush {s : Service} (hs : s.pending.Sound) : Applied s.pending s s.flush.2 :=
  applied_drained hs

/-- The timer takes what waits and applies it, or does nothing. -/
theorem settle_eq (s : Service) :
    s.settle = s ∨
      s.settle = s.drained.applyBatch? (s.scheduler.collector.waiting.map Waiting.batch) := by
  obtain ⟨index, files, ⟨⟨window, waiting⟩, now, running⟩, journal⟩ := s
  cases running with
  | false => exact .inl rfl
  | true =>
      cases waiting with
      | none => exact .inl rfl
      | some w =>
          by_cases hdue : w.deadline ≤ now
          · right
            simp [settle, Scheduler.settle, Collector.poll, hdue, Collector.flush, drained]
          · left
            simp [settle, Scheduler.settle, Collector.poll, hdue, applyBatch?]

/-- **The timer applies what waits or does nothing.** -/
theorem settle_cases {s : Service} (hs : s.pending.Sound) :
    s.settle = s ∨ Applied s.pending s s.settle := by
  rcases settle_eq s with h | h
  · exact .inl h
  · exact .inr (h ▸ applied_drained hs)

/-- Indexing files applies them with what waits, as one batch. -/
theorem applied_indexFiles {s : Service} (hs : s.pending.Sound) (files : List FileEntry) :
    Applied (s.pending.merge files []) s (s.indexFiles files).2 := by
  have heq : (s.indexFiles files).2 = s.drained.applyBatch
      (((s.scheduler.collector.waiting.map Waiting.batch).getD .empty).merge files []) := rfl
  rw [heq, getD_waiting]
  exact applied_drained_applyBatch (hs.merge files []) s

/-! ### Indexing the workspace -/

/-- The state `s'` is `s` after the files were cached and indexed from scratch and then what waits
was applied, with nothing left to wait. -/
structure Rebuilt (files : List FileEntry) (s s' : Service) : Prop where
  pending : s'.pending = .empty
  index : s'.index.Shows (s.pending.overlay (UriMap.empty.putAll files))
  cache : s'.files.cache = s.pending.overlay (s.files.cache.putAll files)

/-- **Indexing the workspace** with what waits folded in leaves the state of the two steps. -/
theorem rebuilt_rebuild {s : Service} (hs : s.pending.Sound) {files : List FileEntry}
    (hnodup : (files.map (·.uri)).Nodup) :
    Rebuilt files s
      (s.drained.rebuild files (s.scheduler.collector.waiting.map Waiting.batch)) := by
  have hall : (s.drained.rebuild files (s.scheduler.collector.waiting.map Waiting.batch)).index =
      SymbolIndex.ofFiles (s.pending.folded files) := by
    rw [← getD_waiting]
    rfl
  have hcache : (s.drained.rebuild files
      (s.scheduler.collector.waiting.map Waiting.batch)).files.cache =
      (s.files.cache.eraseAll s.pending.deletedList).putAll (s.pending.folded files) := by
    rw [← getD_waiting]
    rfl
  have hempty : (UriMap.empty : UriMap FileEntry).eraseAll s.pending.deletedList = .empty := by
    refine UriMap.ext_get? fun u => ?_
    rw [UriMap.get?_eraseAll]
    split <;> rfl
  refine ⟨rfl, ?_, ?_⟩
  · rw [hall, ← hs.putAll_folded, hempty]
    exact SymbolIndex.Shows.ofFiles (hs.nodup_folded hnodup)
  · rw [hcache, hs.putAll_folded]

/-- Indexing the workspace from a provider that lists its files. -/
theorem rebuilt_indexAll {s : Service} (hs : s.pending.Sound) {p : Provider}
    {files : List FileEntry} (hfiles : p.allFiles = .ok files)
    (hnodup : (files.map (·.uri)).Nodup) : Rebuilt files s (s.indexAll p).2 := by
  have heq : (s.indexAll p).2 = (s.noteCalls [.allFiles]).drained.rebuild files
      (s.scheduler.collector.waiting.map Waiting.batch) := by
    simp only [indexAll, takePending_eq, hfiles]
    rfl
  have hnoted : (s.noteCalls [.allFiles]).pending.Sound := hs
  have hrebuilt := rebuilt_rebuild hnoted hnodup
  rw [heq]
  exact ⟨hrebuilt.pending, hrebuilt.index, hrebuilt.cache⟩

/-- Indexing the workspace from a provider that fails applies what waits by itself. -/
theorem applied_indexAll {s : Service} (hs : s.pending.Sound) {p : Provider}
    {cause : ProviderError} (hfiles : p.allFiles = .error cause) :
    Applied s.pending s (s.indexAll p).2 := by
  have heq : (s.indexAll p).2 = (s.noteCalls [.allFiles]).drained.applyBatch?
      (s.scheduler.collector.waiting.map Waiting.batch) := by
    simp only [indexAll, takePending_eq, hfiles]
    rfl
  have hnoted : (s.noteCalls [.allFiles]).pending.Sound := hs
  have happlied := applied_drained hnoted
  rw [heq]
  exact ⟨happlied.pending, happlied.index, happlied.cache⟩

end Service

end SymbolAtlas
