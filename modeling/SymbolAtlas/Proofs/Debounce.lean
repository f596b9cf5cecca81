import SymbolAtlas.Proofs.Pending

/-!
# Batches cut anywhere

Arrivals reach the index in batches, and where one batch ends and the next begins depends on the
clock, on the window and on who asks for a flush. This module compares such a run with one that
applies each arrival as it comes. The invariant is `Service.Settles`: whatever waits at the moment,
applying it will lead to a given map of indexed files and to a given cache. An arrival moves both
maps by its own batch, and neither the clock nor a flush moves them.

## Main results

* `Service.Settles.schedule`, `Service.Settles.of_applied`: the two kinds of steps.
* `Service.Simulates.feed`: one step keeps the batched run and the run arrival by arrival together.
* `debounced_run_agrees`: after a last flush they show the same index and the same cache.
-/

namespace SymbolAtlas

/-- What happens to a scheduler that feeds the index. -/
inductive Feed where
  /-- New texts and deletions arrive. -/
  | arrival (files : List FileEntry) (deleted : List Uri)
  /-- Time passes. -/
  | pass (ms : Nat)
  /-- The timer looks at the clock and hands over what is due. -/
  | timer
  /-- Someone asks for what waits. -/
  | flush

/-- The arrival that the event consists of. -/
def Feed.arrival? : Feed → Option (List FileEntry × List Uri)
  | .arrival files deleted => some (files, deleted)
  | _ => none

namespace Service

/-- The service after an event. -/
def feed (s : Service) : Feed → Service
  | .arrival files deleted => s.schedule files deleted
  | .pass ms => { s with scheduler := s.scheduler.pass ms }
  | .timer => s.settle
  | .flush => s.flush.2

/-- The service after applying one arrival by itself. -/
def applyArrival (s : Service) (arrival : List FileEntry × List Uri) : Service :=
  s.applyBatch (.of arrival.1 arrival.2)

/-! ### Where a state leads -/

/-- Once what waits is applied, the files behind the index are `indexed` and the cache is
`cached`. -/
structure Settles (s : Service) (indexed cached : UriMap FileEntry) : Prop where
  sound : s.pending.Sound
  index : ∃ m, s.index.Shows m ∧ s.pending.overlay m = indexed
  cache : s.pending.overlay s.files.cache = cached

variable {s s' t : Service} {indexed cached : UriMap FileEntry}

/-- A service that waits for nothing leads to where it is. -/
theorem Settles.of_pending_empty {m : UriMap FileEntry} (h : s.pending = .empty)
    (hm : s.index.Shows m) : s.Settles m s.files.cache := by
  constructor
  · rw [h]
    exact Batch.Sound.empty
  · exact ⟨m, hm, by rw [h, Batch.overlay_empty]⟩
  · rw [h, Batch.overlay_empty]

/-- An arrival moves the goal by its own batch. -/
theorem Settles.schedule (h : s.Settles indexed cached) (files : List FileEntry)
    (deleted : List Uri) :
    (s.schedule files deleted).Settles ((Batch.of files deleted).overlay indexed)
      ((Batch.of files deleted).overlay cached) := by
  obtain ⟨hsound, ⟨m, hm, rfl⟩, rfl⟩ := h
  have hpending := pending_schedule s files deleted
  constructor
  · rw [hpending]
    exact hsound.merge files deleted
  · exact ⟨m, hm, by rw [hpending, hsound.overlay_merge]⟩
  · rw [hpending, hsound.overlay_merge]
    rfl

/-- Applying what waits does not move the goal. -/
theorem Settles.of_applied (h : s.Settles indexed cached) (happlied : Applied s.pending s s') :
    s'.Settles indexed cached := by
  obtain ⟨-, ⟨m, hm, rfl⟩, rfl⟩ := h
  rw [← happlied.cache]
  exact Settles.of_pending_empty happlied.pending (happlied.index m hm)

/-- A service that waits for nothing moves its goal by applying a batch. -/
theorem Settles.applyBatch (h : s.Settles indexed cached) (hempty : s.pending = .empty)
    {b : Batch} (hb : b.Sound) :
    (s.applyBatch b).Settles (b.overlay indexed) (b.overlay cached) := by
  obtain ⟨-, ⟨m, hm, rfl⟩, rfl⟩ := h
  have happlied := applied_applyBatch hb hempty
  rw [hempty, Batch.overlay_empty, Batch.overlay_empty, ← happlied.cache]
  exact Settles.of_pending_empty happlied.pending (happlied.index m hm)

/-- Where a service that waits for nothing leads is where it is. -/
theorem Settles.eq_of_pending_empty (h : s.Settles indexed cached) (hempty : s.pending = .empty) :
    s.index = SymbolIndex.ofFiles indexed.values ∧ s.files.cache = cached := by
  obtain ⟨-, ⟨m, hm, rfl⟩, rfl⟩ := h
  rw [hempty, Batch.overlay_empty, Batch.overlay_empty]
  exact ⟨hm.eq, rfl⟩

/-! ### The two runs -/

/-- The batched run `s` leads to where the run `t`, which lets nothing wait, is. -/
structure Simulates (s t : Service) : Prop where
  idle : t.pending = .empty
  settles : ∃ indexed cached, s.Settles indexed cached ∧ t.Settles indexed cached

/-- An arrival is scheduled on the one side and applied on the other. -/
theorem Simulates.schedule (h : Simulates s t) (files : List FileEntry) (deleted : List Uri) :
    Simulates (s.schedule files deleted) (t.applyArrival (files, deleted)) := by
  obtain ⟨hidle, indexed, cached, hs, ht⟩ := h
  have hb := Batch.Sound.of files deleted
  exact ⟨hidle, _, _, hs.schedule files deleted, ht.applyBatch hidle hb⟩

/-- Applying what waits needs no counterpart. -/
theorem Simulates.of_applied (h : Simulates s t) (happlied : Applied s.pending s s') :
    Simulates s' t := by
  obtain ⟨hidle, indexed, cached, hs, ht⟩ := h
  exact ⟨hidle, indexed, cached, hs.of_applied happlied, ht⟩

/-- What waits in the batched run is always well formed. -/
theorem Simulates.sound (h : Simulates s t) : s.pending.Sound := by
  obtain ⟨-, indexed, cached, hs, -⟩ := h
  exact hs.sound

/-- **One event** keeps the two runs together. -/
theorem Simulates.feed (h : Simulates s t) (e : Feed) :
    Simulates (s.feed e) (e.arrival?.toList.foldl applyArrival t) := by
  cases e with
  | arrival files deleted => exact h.schedule files deleted
  | pass ms =>
      obtain ⟨hidle, indexed, cached, hs, ht⟩ := h
      exact ⟨hidle, indexed, cached, ⟨hs.sound, hs.index, hs.cache⟩, ht⟩
  | timer =>
      rcases settle_cases h.sound with hsame | happlied
      · have hfeed : s.feed .timer = s := hsame
        rw [hfeed]
        exact h
      · exact h.of_applied happlied
  | flush => exact h.of_applied (applied_flush h.sound)

/-- **Every run** of events keeps the two runs together. -/
theorem Simulates.foldl_feed (h : Simulates s t) (events : List Feed) :
    Simulates (events.foldl Service.feed s)
      ((events.filterMap Feed.arrival?).foldl applyArrival t) := by
  induction events generalizing s t with
  | nil => exact h
  | cons e events ih =>
      have hstep := ih (h.feed e)
      cases harrival : e.arrival? with
      | none =>
          rw [harrival] at hstep
          rwa [List.foldl_cons, List.filterMap_cons_none harrival]
      | some arrival =>
          rw [harrival] at hstep
          rwa [List.foldl_cons, List.filterMap_cons_some harrival]

end Service

/-- **Debouncing is transparent.** From a service with a reachable index, any cache and nothing
waiting, a run of arrivals with the clock moving, the timer looking and flushes anywhere in between,
and one flush at the end, shows the same index by name, in every search and in its declarations, and
the same cache, as applying each arrival by itself in its turn. -/
theorem debounced_run_agrees (s : Service) (hindex : s.index.Reachable)
    (hidle : s.hasPending = false) (events : List Feed) :
    let debounced := (events.foldl Service.feed s).flush.2
    let direct := (events.filterMap Feed.arrival?).foldl Service.applyArrival s
    (∀ key, debounced.index.lookup key = direct.index.lookup key) ∧
      (∀ query, debounced.index.search query = direct.index.search query) ∧
      debounced.index.declarations = direct.index.declarations ∧
      debounced.files.cache = direct.files.cache := by
  intro debounced direct
  obtain ⟨m, hm⟩ := hindex.exists_shows
  have hempty := Service.pending_eq_empty hidle
  have hstart := Service.Settles.of_pending_empty hempty hm
  have hrun : Service.Simulates s s := ⟨hempty, m, s.files.cache, hstart, hstart⟩
  have hevents := hrun.foldl_feed events
  have happlied := Service.applied_flush hevents.sound
  obtain ⟨hdirect, indexed, cached, hd, ht⟩ := hevents.of_applied happlied
  obtain ⟨hindex₁, hcache₁⟩ := hd.eq_of_pending_empty happlied.pending
  obtain ⟨hindex₂, hcache₂⟩ := ht.eq_of_pending_empty hdirect
  have heq : debounced.index = direct.index := hindex₁.trans hindex₂.symm
  rw [heq]
  exact ⟨fun _ => rfl, fun _ => rfl, rfl, hcache₁.trans hcache₂.symm⟩

/-- A file arrives, is deleted and comes back with another text, and the batch is cut once by the
timer and once by a flush. -/
theorem debounced_run_agrees_return :
    let u : Uri := ⟨"file:///a"⟩
    let s := Service.start 150 500
    let events : List Feed :=
      [.arrival [⟨u, "a", "class Foo"⟩, ⟨u, "a", "class Bar"⟩] [], .pass 150, .timer,
        .arrival [⟨u, "a", "trait Baz"⟩] [u], .flush, .arrival [⟨u, "a", "val again = 1"⟩] []]
    s.index.Reachable ∧ s.hasPending = false ∧
      (events.foldl Service.feed s).flush.2.index.declarations =
        ((events.filterMap Feed.arrival?).foldl Service.applyArrival s).index.declarations := by
  have hindex : (Service.start 150 500).index.Reachable := ⟨[], by simp, rfl⟩
  exact ⟨hindex, rfl, (debounced_run_agrees _ hindex rfl _).2.2.1⟩

end SymbolAtlas
