import Mathlib.Data.List.ReduceOption
import SymbolAtlas.Proofs.Immediate

/-!
# News from disk, at once and event by event

News about files on disk comes in lists. A list is cut in two before it is scheduled, what to fetch
and what to drop, and what is dropped counts after what is fetched. Heard event by event, the last
event of a file that has any effect decides. This module compares the two for files kept in memory:
they agree about a file unless the list tells first that it was deleted and last that it is there
again, and it can be fetched. Such a file ends up dropped in the one case and indexed in the other.

An event of a created or changed file has no effect while an editor has just changed the file, and
if there is nothing to fetch. `Service.refetch?` is what it brings otherwise. Neither the events nor
the timer change that, since they move neither the clock nor the marks.

## Main results

* `Service.arrivalWord?_fetched`: what a list says of a file at once.
* `newsWord?_of_none`, `newsWord?_of_some`: what it says event by event.
* `words_eq_iff`: where the two agree.
* `Service.Settles.watched`, `Service.Settles.foldl_hear`: where a service leads that hears the news
  in the one way or the other.
* `watched_agrees_iff`: when index and cache are the same in the end.
-/

namespace SymbolAtlas

/-! ### Events of one file -/

/-- What the last event of a file says. -/
def lastChange? (changes : List (Uri × Change)) (u : Uri) : Option Change :=
  (changes.reverse.find? fun c => c.1 == u).map (·.2)

/-- The file is told to be deleted, and then, by its last event, to be there. -/
def Returns (changes : List (Uri × Change)) (u : Uri) : Prop :=
  (u, .deleted) ∈ changes ∧ lastChange? changes u ≠ some .deleted

instance (changes : List (Uri × Change)) (u : Uri) : Decidable (Returns changes u) :=
  inferInstanceAs (Decidable (_ ∧ _))

/-- A later event counts before the first one. -/
theorem lastChange?_cons (c : Uri × Change) (changes : List (Uri × Change)) (u : Uri) :
    lastChange? (c :: changes) u =
      (lastChange? changes u).or (if c.1 = u then some c.2 else none) := by
  simp only [lastChange?]
  rw [List.reverse_cons, List.find?_append]
  cases changes.reverse.find? fun c => c.1 == u with
  | some d => rfl
  | none => by_cases h : c.1 = u <;> simp [h]

/-- The last event of a file is one of the events. -/
theorem mem_of_lastChange? {changes : List (Uri × Change)} {u : Uri} {kind : Change}
    (h : lastChange? changes u = some kind) : (u, kind) ∈ changes := by
  obtain ⟨⟨v, k⟩, hfind, rfl⟩ := Option.map_eq_some_iff.mp h
  have hv : v = u := by simpa using List.find?_some hfind
  subst hv
  exact List.mem_reverse.mp (List.mem_of_find?_eq_some hfind)

/-- A file without a last event has no event. -/
theorem lastChange?_eq_none_iff {changes : List (Uri × Change)} {u : Uri} :
    lastChange? changes u = none ↔ ∀ kind, (u, kind) ∉ changes := by
  rw [lastChange?, Option.map_eq_none_iff, List.find?_eq_none]
  constructor
  · intro h kind hmem
    exact h (u, kind) (List.mem_reverse.mpr hmem) (beq_self_eq_true u)
  · rintro h ⟨v, kind⟩ hmem hv
    obtain rfl : v = u := by simpa using hv
    exact h kind (List.mem_reverse.mp hmem)

/-! ### Event by event -/

section EventByEvent

variable {fetch : Uri → Option FileEntry} {u : Uri}

/-- What one event says of a file, where `fetch` is what there is to fetch. -/
def eventWord? (fetch : Uri → Option FileEntry) (c : Uri × Change) (u : Uri) :
    Option (Option FileEntry) :=
  if c.1 = u then if c.2 = .deleted then some none else (fetch u).map some else none

/-- What a list of events says of a file, event by event: the last of them that says anything. -/
def newsWord? (fetch : Uri → Option FileEntry) (changes : List (Uri × Change)) (u : Uri) :
    Option (Option FileEntry) :=
  changes.reverse.findSome? fun c => eventWord? fetch c u

/-- Later events count before the first one. -/
theorem newsWord?_cons (c : Uri × Change) (changes : List (Uri × Change)) :
    newsWord? fetch (c :: changes) u = (newsWord? fetch changes u).or (eventWord? fetch c u) := by
  simp only [newsWord?]
  rw [List.reverse_cons, List.findSome?_append, List.findSome?_singleton]

/-- If there is nothing to fetch, only deletions say anything. -/
theorem newsWord?_of_none (hfetch : fetch u = none) (changes : List (Uri × Change)) :
    newsWord? fetch changes u = if (u, .deleted) ∈ changes then some none else none := by
  induction changes with
  | nil => rfl
  | cons c changes ih =>
      obtain ⟨v, kind⟩ := c
      rw [newsWord?_cons, ih, eventWord?]
      by_cases hmem : (u, Change.deleted) ∈ changes
      · simp [hmem]
      · by_cases hv : v = u
        · subst hv
          cases kind <;> simp [hmem, hfetch]
        · simp [hmem, hv, Ne.symm hv]

/-- If there is something to fetch, the last event of the file decides. -/
theorem newsWord?_of_some {f : FileEntry} (hfetch : fetch u = some f)
    (changes : List (Uri × Change)) :
    newsWord? fetch changes u =
      (lastChange? changes u).map fun kind => if kind = .deleted then none else some f := by
  induction changes with
  | nil => rfl
  | cons c changes ih =>
      rw [newsWord?_cons, ih, lastChange?_cons, eventWord?]
      cases lastChange? changes u with
      | some kind => rfl
      | none =>
          by_cases hc : c.1 = u
          · by_cases hdeleted : c.2 = .deleted <;> simp [hc, hdeleted, hfetch]
          · simp [hc]

/-! ### At once -/

/-- What a list of events says of a file at once: a deletion counts, wherever it stands. -/
def bulkWord? (fetch : Uri → Option FileEntry) (changes : List (Uri × Change)) (u : Uri) :
    Option (Option FileEntry) :=
  if (u, .deleted) ∈ changes then some none
  else (lastChange? changes u).bind fun _ => (fetch u).map some

/-- **At once and event by event agree** about a file unless it returns and can be fetched. -/
theorem words_eq_iff (fetch : Uri → Option FileEntry) (changes : List (Uri × Change)) (u : Uri) :
    bulkWord? fetch changes u = newsWord? fetch changes u ↔
      (Returns changes u → fetch u = none) := by
  rw [bulkWord?, Returns]
  cases hfetch : fetch u with
  | none =>
      rw [newsWord?_of_none hfetch]
      simp
  | some f =>
      rw [newsWord?_of_some hfetch]
      by_cases hdeleted : (u, Change.deleted) ∈ changes
      · -- a deletion is told, so the two agree exactly if the last event is one
        cases hlast : lastChange? changes u with
        | none => exact absurd hdeleted (lastChange?_eq_none_iff.mp hlast _)
        | some kind => by_cases hkind : kind = .deleted <;> simp [hdeleted, hkind]
      · -- no deletion is told, so the last event is none
        cases hlast : lastChange? changes u with
        | none => simp [hdeleted]
        | some kind =>
            have hkind : kind ≠ .deleted := by
              rintro rfl
              exact hdeleted (mem_of_lastChange? hlast)
            simp [hdeleted, hkind]

/-- What is said of a file that returns and can be fetched, at once and event by event. -/
theorem words_of_returns {changes : List (Uri × Change)} {f : FileEntry}
    (hreturns : Returns changes u) (hfetch : fetch u = some f) :
    bulkWord? fetch changes u = some none ∧ newsWord? fetch changes u = some (some f) := by
  obtain ⟨hdeleted, hlast⟩ := hreturns
  refine ⟨if_pos hdeleted, ?_⟩
  rw [newsWord?_of_some hfetch]
  cases hkind : lastChange? changes u with
  | none => exact absurd hdeleted (lastChange?_eq_none_iff.mp hkind _)
  | some kind =>
      have hthere : kind ≠ .deleted := by
        rintro rfl
        exact hlast hkind
      simp [hthere]

end EventByEvent

/-! ### Files kept in memory -/

/-- Looking up a list of identifiers finds the listed ones. -/
theorem latest?_filterMap_get? {m : UriMap FileEntry} (hkeyed : m.Keyed) (uris : List Uri)
    (u : Uri) : latest? (uris.filterMap m.get?) u = if u ∈ uris then m.get? u else none := by
  induction uris with
  | nil => rfl
  | cons v uris ih =>
      cases hget : m.get? v with
      | none =>
          rw [List.filterMap_cons_none hget, ih]
          by_cases hv : u = v
          · simp [hv, hget]
          · simp [hv]
      | some f =>
          rw [List.filterMap_cons_some hget, latest?_cons, ih, hkeyed v f hget]
          by_cases hv : u = v
          · subst hv
            by_cases hmem : u ∈ uris <;> simp [hmem, hget]
          · simp [hv, Ne.symm hv]

namespace Service

variable {s : Service} {m : MemoryFiles}

/-- What the service fetches after hearing that a file was created or changed: nothing while an
editor has just changed it, and nothing while the files are out of reach. -/
def refetch? (s : Service) (m : MemoryFiles) (u : Uri) : Option FileEntry :=
  if s.files.isJustChanged u s.now || m.failing then none else m.files.get? u

/-- The files that the service fetches after a list of events. -/
def fetched (s : Service) (m : MemoryFiles) (changes : List (Uri × Change)) : List FileEntry :=
  if m.failing then [] else (s.toRefetch changes).filterMap m.files.get?

theorem mem_toDrop {changes : List (Uri × Change)} {u : Uri} :
    u ∈ toDrop changes ↔ (u, .deleted) ∈ changes := by
  simp [toDrop]

theorem mem_toRefetch {changes : List (Uri × Change)} {u : Uri} :
    u ∈ s.toRefetch changes ↔
      (∃ kind ≠ .deleted, (u, kind) ∈ changes) ∧ s.files.isJustChanged u s.now = false := by
  simp only [toRefetch, List.mem_map, List.mem_filter, Bool.and_eq_true, bne_iff_ne,
    Bool.not_eq_true']
  constructor
  · rintro ⟨⟨v, kind⟩, ⟨hmem, hkind, hmark⟩, rfl⟩
    exact ⟨⟨kind, hkind, hmem⟩, hmark⟩
  · rintro ⟨⟨kind, hkind, hmem⟩, hmark⟩
    exact ⟨(u, kind), ⟨hmem, hkind, hmark⟩, rfl⟩

/-- Of a file that was created or changed, what can be fetched is fetched. -/
theorem latest?_fetched (hkeyed : m.files.Keyed) {changes : List (Uri × Change)} {u : Uri}
    (hthere : ∃ kind ≠ .deleted, (u, kind) ∈ changes) :
    latest? (s.fetched m changes) u = s.refetch? m u := by
  rw [fetched, refetch?]
  cases hfailing : m.failing with
  | true => simp [latest?]
  | false =>
      have hmem : u ∈ s.toRefetch changes ↔ s.files.isJustChanged u s.now = false :=
        mem_toRefetch.trans (and_iff_right hthere)
      simp only [Bool.false_eq_true, if_false, Bool.or_false]
      rw [latest?_filterMap_get? hkeyed]
      cases hmark : s.files.isJustChanged u s.now with
      | true => simp [hmem, hmark]
      | false => simp [hmem, hmark]

/-- A file without events is not fetched. -/
theorem latest?_fetched_of_none (hkeyed : m.files.Keyed) {changes : List (Uri × Change)} {u : Uri}
    (hnone : ∀ kind, (u, kind) ∉ changes) : latest? (s.fetched m changes) u = none := by
  rw [fetched]
  split
  · rfl
  · rw [latest?_filterMap_get? hkeyed, if_neg]
    rw [mem_toRefetch]
    rintro ⟨⟨kind, -, hmem⟩, -⟩
    exact hnone kind hmem

/-- **What is fetched and what is dropped**, as one arrival, say what the events say at once. -/
theorem arrivalWord?_fetched (hkeyed : m.files.Keyed) (changes : List (Uri × Change)) (u : Uri) :
    arrivalWord? (s.fetched m changes) (toDrop changes) u =
      bulkWord? (s.refetch? m) changes u := by
  rw [arrivalWord?, bulkWord?]
  by_cases hdeleted : (u, Change.deleted) ∈ changes
  · rw [if_pos (mem_toDrop.mpr hdeleted), if_pos hdeleted]
  · rw [if_neg (mt mem_toDrop.mp hdeleted), if_neg hdeleted]
    cases hlast : lastChange? changes u with
    | none =>
        rw [latest?_fetched_of_none hkeyed (lastChange?_eq_none_iff.mp hlast)]
        rfl
    | some kind =>
        have hmem := mem_of_lastChange? hlast
        have hkind : kind ≠ .deleted := by
          rintro rfl
          exact hdeleted hmem
        rw [latest?_fetched hkeyed ⟨kind, hkind, hmem⟩]
        rfl

/-- One event says at once what it says as an event. -/
theorem bulkWord?_singleton (fetch : Uri → Option FileEntry) (c : Uri × Change) (u : Uri) :
    bulkWord? fetch [c] u = eventWord? fetch c u := by
  have hnews : newsWord? fetch [c] u = eventWord? fetch c u := newsWord?_cons c []
  rw [← hnews, words_eq_iff]
  rintro ⟨hmem, hlast⟩
  obtain rfl : (u, Change.deleted) = c := List.mem_singleton.mp hmem
  simp [lastChange?] at hlast

/-! ### Hearing news -/

/-- Hearing news is an arrival of what is fetched and what is dropped, after a question or none. -/
theorem watched_eq (s : Service) (m : MemoryFiles) (changes : List (Uri × Change)) :
    ∃ calls, s.watched m.provider changes =
      (s.noteCalls calls).schedule (s.fetched m changes) (toDrop changes) := by
  simp only [watched, fetched]
  split
  next hnone =>
    refine ⟨[], ?_⟩
    rw [List.isEmpty_iff.mp hnone]
    simp [noteCalls]
  next =>
    refine ⟨[.files (s.toRefetch changes)], ?_⟩
    simp only [MemoryFiles.provider, MemoryFiles.guarded]
    split <;> rfl

/-- The same clock and the same marks. -/
structure SameMarks (s t : Service) : Prop where
  now : t.now = s.now
  marks : t.files.marks = s.files.marks

/-- Under the same marks the same is fetched. -/
theorem SameMarks.refetch?_eq {t : Service} (h : SameMarks s t) (m : MemoryFiles) :
    t.refetch? m = s.refetch? m := by
  funext u
  have hmark : t.files.isJustChanged u t.now = s.files.isJustChanged u s.now := by
    rw [FileStore.isJustChanged, FileStore.isJustChanged, h.marks, h.now]
  rw [refetch?, refetch?, hmark]

/-- News from disk moves neither clock nor marks. -/
theorem SameMarks.watched {t : Service} (h : SameMarks s t) (m : MemoryFiles)
    (changes : List (Uri × Change)) : SameMarks s (t.watched m.provider changes) := by
  obtain ⟨calls, heq⟩ := t.watched_eq m changes
  rw [heq, Service.schedule, Scheduler.schedule]
  split <;> exact ⟨h.now, h.marks⟩

/-- The timer moves neither clock nor marks. -/
theorem SameMarks.settle {t : Service} (h : SameMarks s t) : SameMarks s t.settle := by
  rcases settle_eq t with heq | heq
  · rw [heq]
    exact h
  · rw [heq]
    cases t.scheduler.collector.waiting <;> exact ⟨h.now, h.marks⟩

variable {indexed cached : UriMap FileEntry}

/-- The map `m'` is `m` with a word on each file, where there is one. -/
def Says (word? : Uri → Option (Option FileEntry)) (m m' : UriMap FileEntry) : Prop :=
  ∀ u, m'.get? u = (word? u).getD (m.get? u)

/-- Maps with the same words on them are the same. -/
theorem Says.eq {word? word?' : Uri → Option (Option FileEntry)} {m m₁ m₂ : UriMap FileEntry}
    (h₁ : Says word? m m₁) (h₂ : Says word?' m m₂) (h : ∀ u, word? u = word?' u) : m₁ = m₂ := by
  refine UriMap.ext_get? fun u => ?_
  rw [h₁, h₂, h]

/-- The file that a word says. -/
theorem Says.get? {word? : Uri → Option (Option FileEntry)} {m m' : UriMap FileEntry}
    (h : Says word? m m') {u : Uri} {word : Option FileEntry} (hword : word? u = some word) :
    m'.get? u = word := by
  rw [h, hword]
  rfl

/-- Words on a map that has the word of an event on it are the words of the longer news. -/
theorem Says.cons {fetch : Uri → Option FileEntry} {c : Uri × Change}
    {changes : List (Uri × Change)} {m m₁ m₂ : UriMap FileEntry}
    (h₁ : Says (bulkWord? fetch [c]) m m₁) (h₂ : Says (newsWord? fetch changes) m₁ m₂) :
    Says (newsWord? fetch (c :: changes)) m m₂ := by
  intro u
  rw [h₂, h₁, bulkWord?_singleton, newsWord?_cons]
  cases newsWord? fetch changes u <;> rfl

/-- **News at once** moves the goal by what it says at once. -/
theorem Settles.watched (h : s.Settles indexed cached) (hkeyed : m.files.Keyed)
    (changes : List (Uri × Change)) :
    ∃ indexed' cached', (s.watched m.provider changes).Settles indexed' cached' ∧
      Says (bulkWord? (s.refetch? m) changes) indexed indexed' ∧
      Says (bulkWord? (s.refetch? m) changes) cached cached' := by
  obtain ⟨calls, heq⟩ := s.watched_eq m changes
  have hnoted : (s.noteCalls calls).Settles indexed cached := ⟨h.sound, h.index, h.cache⟩
  have hsays (files : UriMap FileEntry) : Says (bulkWord? (s.refetch? m) changes) files
      ((Batch.of (s.fetched m changes) (toDrop changes)).overlay files) := by
    intro u
    rw [(Batch.Sound.of _ _).get?_overlay, Batch.word?_of, arrivalWord?_fetched hkeyed]
  rw [heq]
  exact ⟨_, _, hnoted.schedule _ _, hsays indexed, hsays cached⟩

/-- One event of the news, or the timer looking at the clock in between. -/
def hear (p : Provider) (s : Service) : Option (Uri × Change) → Service
  | some c => s.watched p [c]
  | none => s.settle

/-- The timer does not move the goal. -/
theorem Settles.settle (h : s.Settles indexed cached) : s.settle.Settles indexed cached := by
  rcases settle_cases h.sound with hsame | happlied
  · rw [hsame]
    exact h
  · exact h.of_applied happlied

/-- **News event by event** moves the goal by what it says event by event. What there is to fetch is
the same at every step, as in the state `s` that the news finds. -/
theorem Settles.foldl_hear {t : Service} (h : t.Settles indexed cached) (hkeyed : m.files.Keyed)
    (hmarks : SameMarks s t) (steps : List (Option (Uri × Change))) :
    ∃ indexed' cached', (steps.foldl (hear m.provider) t).Settles indexed' cached' ∧
      Says (newsWord? (s.refetch? m) steps.reduceOption) indexed indexed' ∧
      Says (newsWord? (s.refetch? m) steps.reduceOption) cached cached' := by
  induction steps generalizing t indexed cached with
  | nil => exact ⟨indexed, cached, h, fun _ => rfl, fun _ => rfl⟩
  | cons step steps ih =>
      cases step with
      | none => exact ih h.settle hmarks.settle
      | some c =>
          obtain ⟨indexed₁, cached₁, hfirst, hi₁, hc₁⟩ := h.watched hkeyed [c]
          obtain ⟨indexed₂, cached₂, hrest, hi₂, hc₂⟩ := ih hfirst (hmarks.watched m [c])
          rw [hmarks.refetch?_eq] at hi₁ hc₁
          exact ⟨indexed₂, cached₂, hrest, hi₁.cons hi₂, hc₁.cons hc₂⟩

/-- Where a service that waits for nothing leads are the files behind its index. -/
theorem Settles.shows (h : s.Settles indexed cached) (hempty : s.pending = .empty) :
    s.index.Shows indexed := by
  obtain ⟨-, ⟨m, hm, rfl⟩, -⟩ := h
  rwa [hempty, Batch.overlay_empty]

/-- Cache and index have the same file, or none. -/
structure Holds (s : Service) (u : Uri) (file? : Option FileEntry) : Prop where
  cached : s.files.cached? u = file?
  declared : s.index.declarations.filter (fun d => d.uri == u) =
    SymbolIndex.sorted (declarationsIn file?.toList)

/-- Where the two maps that a service leads to have the same file, its cache and its index have it
once nothing waits. -/
theorem Settles.holds (h : s.Settles indexed cached) (hempty : s.pending = .empty) {u : Uri}
    {file? : Option FileEntry} (hindexed : indexed.get? u = file?)
    (hcached : cached.get? u = file?) : s.Holds u file? := by
  constructor
  · rw [FileStore.cached?, (h.eq_of_pending_empty hempty).2, hcached]
  · rw [(h.shows hempty).filter_declarations, hindexed]

end Service

/-- **When news at once means the same as event by event.** After any run, with any files kept in
memory, in reach or not, any list of events is heard at once on the one side and event by event on
the other, with the timer looking at the clock anywhere in between. After a flush index and cache
are the same exactly if no file returns that can be fetched. Such a file is dropped at once, and it
is there event by event. -/
theorem watched_agrees_iff (window grace : Nat) (ops : List Operation)
    (hlists : ∀ op ∈ ops, op.ListsDistinct) (stored : List FileEntry) (failing : Bool)
    (steps : List (Option (Uri × Change))) :
    let s := (Service.start window grace).run ops
    let m : MemoryFiles := ⟨(MemoryFiles.of stored).files, failing⟩
    let changes := steps.reduceOption
    let bulk := (s.watched m.provider changes).flush.2
    let single := (steps.foldl (Service.hear m.provider) s).flush.2
    ((bulk.index = single.index ∧ bulk.files.cache = single.files.cache) ↔
      ∀ u, Returns changes u → s.refetch? m u = none) ∧
      ∀ u f, Returns changes u → s.refetch? m u = some f →
        bulk.Holds u none ∧ single.Holds u (some f) := by
  intro s m changes bulk single
  have hkeyed : m.files.Keyed := UriMap.keyed_empty.putAll stored
  obtain ⟨indexed, cached, hs⟩ := Service.exists_settles_run window grace hlists
  obtain ⟨indexed₁, cached₁, hbulk, hi₁, hc₁⟩ := hs.watched hkeyed changes
  obtain ⟨indexed₂, cached₂, hsingle, hi₂, hc₂⟩ := hs.foldl_hear hkeyed ⟨rfl, rfl⟩ steps
  obtain ⟨hbulk, hempty₁⟩ := hbulk.flush
  obtain ⟨hsingle, hempty₂⟩ := hsingle.flush
  have hreturned (u : Uri) (f : FileEntry) (hreturns : Returns changes u)
      (hfetch : s.refetch? m u = some f) : bulk.Holds u none ∧ single.Holds u (some f) := by
    obtain ⟨hword₁, hword₂⟩ := words_of_returns hreturns hfetch
    exact ⟨hbulk.holds hempty₁ (hi₁.get? hword₁) (hc₁.get? hword₁),
      hsingle.holds hempty₂ (hi₂.get? hword₂) (hc₂.get? hword₂)⟩
  refine ⟨⟨?_, ?_⟩, hreturned⟩
  · rintro ⟨-, hcache⟩ u hreturns
    refine Option.eq_none_iff_forall_ne_some.mpr fun f hfetch => ?_
    obtain ⟨hdropped, hthere⟩ := hreturned u f hreturns hfetch
    have hcached : bulk.files.cached? u = single.files.cached? u :=
      congrArg (UriMap.get? · u) hcache
    rw [hdropped.cached, hthere.cached] at hcached
    cases hcached
  · intro hnone
    have hwords (u : Uri) : bulkWord? (s.refetch? m) changes u =
        newsWord? (s.refetch? m) changes u := (words_eq_iff _ changes u).mpr (hnone u)
    obtain rfl := hi₁.eq hi₂ hwords
    obtain rfl := hc₁.eq hc₂ hwords
    exact hbulk.eq_of_settles hsingle hempty₁ hempty₂

/-- Heard at once and event by event with the timer looking after each event, with a window of zero:
one file is created and then deleted, and another one returns that an editor has just changed. -/
theorem watched_agrees_iff_edited :
    let a : Uri := ⟨"file:///a"⟩
    let b : Uri := ⟨"file:///b"⟩
    let stored : List FileEntry := [⟨a, "a", "class Foo"⟩, ⟨b, "b", "trait Bar"⟩]
    let m : MemoryFiles := ⟨(MemoryFiles.of stored).files, false⟩
    let ops : List Operation := [.indexAll m.provider, .changed m.provider b "trait Edited"]
    let steps : List (Option (Uri × Change)) := [some (a, .created), none, some (b, .deleted), none,
      some (a, .deleted), none, some (b, .created), none]
    let s := (Service.start 0 500).run ops
    (∀ op ∈ ops, op.ListsDistinct) ∧ Returns steps.reduceOption b ∧
      (s.watched m.provider steps.reduceOption).flush.2.index =
        (steps.foldl (Service.hear m.provider) s).flush.2.index := by
  intro a b stored m ops steps s
  have hdistinct : m.provider.ListsDistinct := by
    intro files hfiles
    cases hfiles
    decide
  have hlists : ∀ op ∈ ops, op.ListsDistinct := by simp [ops, Operation.ListsDistinct, hdistinct]
  have hreturns : Returns steps.reduceOption b := by decide
  have hnone : ∀ u, Returns steps.reduceOption u → s.refetch? m u = none := by
    rintro u ⟨hdeleted, hlast⟩
    have hu : u = b ∨ u = a := by simpa [steps, List.reduceOption] using hdeleted
    rcases hu with rfl | rfl
    · decide
    · have hdropped : lastChange? steps.reduceOption a = some .deleted := by decide
      exact absurd hdropped hlast
  obtain ⟨hagrees, -⟩ := watched_agrees_iff 0 500 ops hlists stored false steps
  have hm : (⟨(MemoryFiles.of stored).files, false⟩ : MemoryFiles) = m := rfl
  have hs : (Service.start 0 500).run ops = s := rfl
  rw [hm, hs] at hagrees
  exact ⟨hlists, hreturns, (hagrees.mpr hnone).1⟩

/-- **A file that returns is dropped.** A file is indexed from the workspace, and one notification
tells that it was deleted and created again. Heard at once it ends up neither cached nor indexed,
though the workspace has it; heard event by event it ends up as it was. -/
theorem watched_drops_returned :
    let u : Uri := ⟨"file:///A.scala"⟩
    let f : FileEntry := ⟨u, "A.scala", "class Foo"⟩
    let p := (MemoryFiles.of [f]).provider
    let s := (Service.start 150 500).run [.indexAll p]
    let changes : List (Uri × Change) := [(u, .deleted), (u, .created)]
    let bulk := (s.watched p changes).flush.2
    let single := (changes.foldl (fun s c => s.watched p [c]) s).flush.2
    (bulk.files.cached? u = none ∧ bulk.index.declarations = []) ∧
      single.files.cached? u = some f ∧
      single.index.declarations = [⟨"Foo", .classLike, ⟨u, "A.scala"⟩, ⟨0, 6⟩⟩] := by
  decide +kernel

end SymbolAtlas
