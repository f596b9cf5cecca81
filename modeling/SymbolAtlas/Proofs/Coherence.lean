import SymbolAtlas.Proofs.Pending
import SymbolAtlas.Proofs.Runs

/-!
# Index and cache

Edits are cached at once and indexed later, refetched files are cached when they are indexed,
look-ups cache what they fetch and index nothing, and deletions reach both only with their batch.
For a file that nobody opened, all of this leaves the two in agreement as soon as nothing waits for
the file: `Service.Coherent s u` says that what is indexed of the file is then also cached. While
something waits for the file the invariant says nothing of it, which is what lets an edit change the
cache first.

Three kinds of steps keep the invariant: applying a batch, which gives index and cache the same
word; writing to the cache without changing a cached file; and letting the file wait.

## Main results

* `Service.Coherent.of_applied`, `Service.Coherent.of_cache`, `Service.Coherent.schedule`: the kinds
  of steps.
* `Service.Coherent.step`: every operation that does not open the file keeps the invariant.
* `index_agrees_with_cache`: the index and the cache agree on every file that does not wait.
-/

namespace SymbolAtlas

/-! ### What an index shows of one file -/

/-- A map lists at most one file under an identifier. -/
theorem UriMap.Keyed.filter_values {m : UriMap FileEntry} (h : m.Keyed) (u : Uri) :
    m.values.filter (fun f => f.uri == u) = (m.get? u).toList := by
  have hnodup : m.values.Nodup := .of_map _ h.nodup_uris
  have hmem (f : FileEntry) : f ∈ m.values.filter (fun f => f.uri == u) ↔ m.get? u = some f := by
    rw [List.mem_filter, beq_iff_eq, h.mem_values_iff]
    constructor
    · rintro ⟨hget, rfl⟩
      exact hget
    · intro hget
      have huri := h u f hget
      exact ⟨by rw [huri, hget], huri⟩
  cases hget : m.get? u with
  | none =>
      refine List.eq_nil_iff_forall_not_mem.mpr fun f hf => ?_
      rw [hmem, hget] at hf
      cases hf
  | some f =>
      refine List.perm_singleton.mp ?_
      refine (List.perm_ext_iff_of_nodup (hnodup.filter _) (List.nodup_singleton f)).mpr ?_
      intro g
      rw [hmem, hget, Option.some.injEq, List.mem_singleton, eq_comm]

/-- Of one file an index shows its declarations, sorted. -/
theorem SymbolIndex.Shows.filter_declarations {index : SymbolIndex} {m : UriMap FileEntry}
    (h : index.Shows m) (u : Uri) :
    index.declarations.filter (fun d => d.uri == u) =
      sorted (declarationsIn (m.get? u).toList) := by
  obtain ⟨hkeyed, rfl⟩ := h
  rw [declarations_ofFiles hkeyed.nodup_uris,
    filter_sorted (nodup_places_declarationsIn hkeyed.nodup_uris),
    filter_declarationsIn m.values (fun v => v == u), hkeyed.filter_values]

/-! ### The store -/

namespace FileStore

theorem cached?_update (s : FileStore) (files : List FileEntry) (u : Uri) :
    (s.update files).cached? u = (latest? files u).or (s.cached? u) :=
  UriMap.get?_putAll s.cache files u

/-- Entering a file leaves the other files alone. -/
theorem cached?_update_of_ne (s : FileStore) {f : FileEntry} {u : Uri} (h : f.uri ≠ u) :
    (s.update [f]).cached? u = s.cached? u := by
  rw [cached?_update, latest?_cons, if_neg h]
  rfl

/-- Asking for a file never changes a cached one. -/
theorem cached?_get {s : FileStore} {u : Uri} {f : FileEntry} (h : s.cached? u = some f)
    (p : Provider) (v : Uri) : (s.get p v).store.cached? u = some f := by
  rw [get]
  split
  · exact h
  next hnone =>
    split
    · exact h
    · split
      · exact h
      next g hfind =>
        have huri : g.uri = v := by simpa using List.find?_some hfind
        have hne : g.uri ≠ u := by
          rintro rfl
          rw [huri, hnone] at h
          cases h
        rw [cached?_update_of_ne s hne]
        exact h

/-- Asking for a name leaves the store alone. -/
theorem store_relativePath (s : FileStore) (p : Provider) (u : Uri) :
    (s.relativePath p u).store = s := by
  rw [relativePath]
  split
  · rfl
  · split <;> rfl

end FileStore

/-! ### The invariant -/

namespace Service

/-- What is indexed of the file is cached, unless something waits for the file. -/
structure Coherent (s : Service) (u : Uri) : Prop where
  sound : s.pending.Sound
  index : ∃ m, s.index.Shows m ∧
    (s.pending.word? u = none → ∀ f, m.get? u = some f → s.files.cached? u = some f)

variable {s s' : Service} {u : Uri}

theorem Coherent.start (window grace : Nat) (u : Uri) : (start window grace).Coherent u :=
  ⟨Batch.Sound.empty, .empty, SymbolIndex.Shows.empty, fun _ _ h => by cases h⟩

/-- Index and batch as before, and the file still cached if it was. -/
theorem Coherent.of_cache (h : s.Coherent u) (hindex : s'.index = s.index)
    (hpending : s'.pending = s.pending)
    (hcache : ∀ f, s.files.cached? u = some f → s'.files.cached? u = some f) :
    s'.Coherent u := by
  obtain ⟨hsound, m, hm, hcached⟩ := h
  refine ⟨hpending ▸ hsound, m, hindex ▸ hm, ?_⟩
  intro hword f hf
  rw [hpending] at hword
  exact hcache f (hcached hword f hf)

/-- An arrival waits, and says nothing of the file or lets it wait. -/
theorem Coherent.schedule (h : s.Coherent u) (files : List FileEntry) (deleted : List Uri) :
    (s.schedule files deleted).Coherent u := by
  obtain ⟨hsound, m, hm, hcached⟩ := h
  have hpending := pending_schedule s files deleted
  refine ⟨hpending ▸ hsound.merge files deleted, m, hm, ?_⟩
  intro hword
  rw [hpending, Batch.word?_merge, Option.or_eq_none_iff] at hword
  exact hcached hword.2

/-- An arrival that speaks of the file lets it wait, whatever was done to the cache. -/
theorem Coherent.schedule_of_arrivalWord? (h : s.Coherent u) {files : List FileEntry}
    {deleted : List Uri} (hword : arrivalWord? files deleted u ≠ none) (store : FileStore) :
    ({ s with files := store }.schedule files deleted).Coherent u := by
  obtain ⟨hsound, m, hm, -⟩ := h
  have hpending : ({ s with files := store }.schedule files deleted).pending =
      s.pending.merge files deleted := pending_schedule _ files deleted
  refine ⟨hpending ▸ hsound.merge files deleted, m, hm, ?_⟩
  intro hnone
  rw [hpending, Batch.word?_merge, Option.or_eq_none_iff] at hnone
  exact absurd hnone.1 hword

/-- A batch with what waits in it is applied: index and cache take its word, or agree already. -/
theorem Coherent.of_applied (h : s.Coherent u) {b : Batch} (hb : b.Sound)
    (hword : b.word? u = none → s.pending.word? u = none) (happlied : Applied b s s') :
    s'.Coherent u := by
  obtain ⟨-, m, hm, hcached⟩ := h
  refine ⟨happlied.pending ▸ Batch.Sound.empty, b.overlay m, happlied.index m hm, ?_⟩
  intro _ f hf
  rw [FileStore.cached?, happlied.cache, hb.get?_overlay]
  rw [hb.get?_overlay] at hf
  cases hsaid : b.word? u with
  | none =>
      rw [hsaid] at hf
      exact hcached (hword hsaid) f hf
  | some word =>
      rw [hsaid] at hf
      exact hf

/-- The workspace is indexed anew: what the index shows of the file was cached just before. -/
theorem Coherent.of_rebuilt (h : s.Coherent u) {files : List FileEntry}
    (hrebuilt : Rebuilt files s s') : s'.Coherent u := by
  have hsound := h.sound
  refine ⟨hrebuilt.pending ▸ Batch.Sound.empty, _, hrebuilt.index, ?_⟩
  intro _ f hf
  rw [FileStore.cached?, hrebuilt.cache, hsound.get?_overlay, UriMap.get?_putAll]
  rw [hsound.get?_overlay, UriMap.get?_putAll] at hf
  cases hsaid : s.pending.word? u with
  | some word =>
      rw [hsaid] at hf
      exact hf
  | none =>
      rw [hsaid] at hf
      cases hlisted : latest? files u with
      | some g =>
          rw [hlisted] at hf
          exact hf
      | none =>
          rw [hlisted] at hf
          cases hf

/-! ### The operations -/

/-- The answer to a request is scheduled; a failure has no files. -/
theorem Coherent.scheduleFetched (h : s.Coherent u)
    (answer : Except ProviderError (List FileEntry)) (deleted : List Uri) :
    (s.scheduleFetched answer deleted).Coherent u := by
  simp only [Service.scheduleFetched]
  split
  · exact h.schedule _ deleted
  · exact h.schedule [] deleted

/-- Only the opened document is put into the cache without waiting for the index. -/
theorem Coherent.opened (h : s.Coherent u) (p : Provider) {v : Uri} (hne : v ≠ u) (text : String) :
    (s.opened p v text).Coherent u := by
  refine h.of_cache rfl rfl ?_
  intro f hf
  have hcached : (s.opened p v text).files.cached? u =
      (s.files.relativePath p v).store.cached? u := FileStore.cached?_update_of_ne _ hne
  rw [hcached, FileStore.store_relativePath]
  exact hf

/-- An edited document is cached at once, but it waits; other files are left alone. -/
theorem Coherent.changed (h : s.Coherent u) (p : Provider) (v : Uri) (text : String) :
    (s.changed p v text).Coherent u := by
  let path := (s.files.markJustChanged v s.now).relativePath p v
  let entry : FileEntry := ⟨v, path.value, text⟩
  let noted := s.noteCalls path.calls
  have heq : s.changed p v text =
      { noted with files := path.store.update [entry] }.schedule [entry] [] := rfl
  have hnoted : noted.Coherent u := h.of_cache rfl rfl fun _ hf => hf
  rw [heq]
  by_cases hv : v = u
  · have hword : arrivalWord? [entry] [] u ≠ none := by
      simp [arrivalWord?, latest?_cons, entry, hv]
    exact hnoted.schedule_of_arrivalWord? hword _
  · have hcached : (path.store.update [entry]).cached? u = s.files.cached? u := by
      rw [FileStore.cached?_update_of_ne _ hv, FileStore.store_relativePath]
      rfl
    have hupdated : Coherent { noted with files := path.store.update [entry] } u :=
      hnoted.of_cache rfl rfl fun _ hf => hcached.trans hf
    exact hupdated.schedule [entry] []

theorem Coherent.saved (h : s.Coherent u) (p : Provider) (v : Uri) (text : Option String) :
    (s.saved p v text).Coherent u := by
  cases text with
  | some text => exact h.changed p v text
  | none =>
      have hnoted : (s.noteCalls [.files [v]]).Coherent u := h.of_cache rfl rfl fun _ hf => hf
      exact hnoted.scheduleFetched _ []

theorem Coherent.watched (h : s.Coherent u) (p : Provider) (changes : List (Uri × Change)) :
    (s.watched p changes).Coherent u := by
  simp only [Service.watched]
  split
  · exact h.schedule [] _
  · have hnoted : (s.noteCalls [.files (s.toRefetch changes)]).Coherent u :=
      h.of_cache rfl rfl fun _ hf => hf
    exact hnoted.scheduleFetched _ _

theorem Coherent.lookupAt (h : s.Coherent u) (p : Provider) (action : String) (v : Uri)
    (position : Position) : (s.lookupAt p action v position).2.Coherent u :=
  h.of_cache rfl rfl fun _ hf => FileStore.cached?_get hf p v

theorem Coherent.organizeImports (h : s.Coherent u) (p : Provider) (v : Uri) :
    (s.organizeImports p v).2.Coherent u :=
  h.of_cache rfl rfl fun _ hf => FileStore.cached?_get hf p v

theorem Coherent.flush (h : s.Coherent u) : s.flush.2.Coherent u :=
  h.of_applied h.sound id (applied_flush h.sound)

theorem Coherent.sleep (h : s.Coherent u) (ms : Nat) : (s.sleep ms).Coherent u := by
  have hpass : Coherent { s with scheduler := s.scheduler.pass ms } u :=
    h.of_cache rfl rfl fun _ hf => hf
  rcases settle_cases hpass.sound with hsame | happlied
  · have hsleep : s.sleep ms = { s with scheduler := s.scheduler.pass ms } := hsame
    rw [hsleep]
    exact hpass
  · exact hpass.of_applied hpass.sound id happlied

theorem Coherent.indexFiles (h : s.Coherent u) (files : List FileEntry) :
    (s.indexFiles files).2.Coherent u := by
  refine h.of_applied (h.sound.merge files []) ?_ (applied_indexFiles h.sound files)
  intro hword
  rw [Batch.word?_merge, Option.or_eq_none_iff] at hword
  exact hword.2

theorem Coherent.indexAll (h : s.Coherent u) {p : Provider} (hp : p.ListsDistinct) :
    (s.indexAll p).2.Coherent u := by
  cases hfiles : p.allFiles with
  | error cause => exact h.of_applied h.sound id (applied_indexAll h.sound hfiles)
  | ok files => exact h.of_rebuilt (rebuilt_indexAll h.sound hfiles (hp files hfiles))

/-- **Every operation** that does not open the file keeps the invariant. -/
theorem Coherent.step (h : s.Coherent u) {op : Operation} (hp : op.ListsDistinct)
    (hopens : op.opens? ≠ some u) : (op.run s).Coherent u := by
  cases op with
  | indexAll p => exact h.indexAll hp
  | indexFiles files => exact h.indexFiles files
  | opened p v text => exact h.opened p (fun hv => hopens (congrArg some hv)) text
  | changed p v text => exact h.changed p v text
  | saved p v text => exact h.saved p v text
  | watched p changes => exact h.watched p changes
  | definition p v position => exact h.lookupAt p "definition" v position
  | hover p v position => exact h.lookupAt p "hover" v position
  | search query => exact h.of_cache rfl rfl fun _ hf => hf
  | organizeImports p v => exact h.organizeImports p v
  | flush => exact h.flush
  | sleep ms => exact h.sleep ms
  | shutdown => exact h.flush.of_cache rfl rfl fun _ hf => hf

/-- **Every run** that does not open the file keeps the invariant. -/
theorem coherent_run (window grace : Nat) {ops : List Operation}
    (hp : ∀ op ∈ ops, op.ListsDistinct) (hopens : ∀ op ∈ ops, op.opens? ≠ some u) :
    ((start window grace).run ops).Coherent u := by
  refine run_induction (P := fun s => s.Coherent u) (Coherent.start window grace u) ?_
  intro s op hop h
  exact h.step (hp op hop) (hopens op hop)

/-- In agreement, the index shows nothing of a file that does not wait or what its cached text
declares. -/
theorem Coherent.filter_declarations (h : s.Coherent u) (hword : s.pending.word? u = none) :
    s.index.declarations.filter (fun d => d.uri == u) = [] ∨
      ∃ f, s.files.cached? u = some f ∧
        s.index.declarations.filter (fun d => d.uri == u) = SymbolIndex.sorted f.declarations := by
  obtain ⟨-, m, hm, hcached⟩ := h
  rw [hm.filter_declarations]
  cases hget : m.get? u with
  | none => exact .inl (by simp [SymbolIndex.sorted, declarationsIn])
  | some f => exact .inr ⟨f, hcached hword f hget, by simp [declarationsIn]⟩

end Service

/-- **Index and cache agree on every file that does not wait.** After any run of operations on a
service that had seen nothing, with any providers that list no file twice, a file that was never
opened and has neither a new text nor a deletion waiting is not indexed at all, or it is cached and
its indexed declarations are those of the cached text. -/
theorem index_agrees_with_cache (window grace : Nat) (ops : List Operation)
    (hlists : ∀ op ∈ ops, op.ListsDistinct) (u : Uri) (hopens : ∀ op ∈ ops, op.opens? ≠ some u)
    (hfile : ((Service.start window grace).run ops).pending.file? u = none)
    (hdeleted : ((Service.start window grace).run ops).pending.isDeleted u = false) :
    let s := (Service.start window grace).run ops
    s.index.declarations.filter (fun d => d.uri == u) = [] ∨
      ∃ f, s.files.cached? u = some f ∧
        s.index.declarations.filter (fun d => d.uri == u) = SymbolIndex.sorted f.declarations :=
  (Service.coherent_run window grace hlists hopens).filter_declarations
    (Batch.word?_eq_none_iff.mpr ⟨hfile, hdeleted⟩)

/-- Two files are indexed from the workspace, one is edited and the edit becomes due, the other is
opened and then deleted on disk: the second file waits, and the first does not. -/
theorem index_agrees_with_cache_edited :
    let a : Uri := ⟨"file:///a"⟩
    let b : Uri := ⟨"file:///b"⟩
    let p := (MemoryFiles.of [⟨a, "a", "class Foo"⟩, ⟨b, "b", "val x = new Foo()"⟩]).provider
    let s := (Service.start 150 500).run [.indexAll p, .changed p a "trait Bar", .sleep 150,
      .opened p b "class Baz", .definition p b ⟨0, 7⟩, .watched p [(b, .deleted)]]
    s.pending.isDeleted b = true ∧
      (s.index.declarations.filter (fun d => d.uri == a) = [] ∨
        ∃ f, s.files.cached? a = some f ∧
          s.index.declarations.filter (fun d => d.uri == a) =
            SymbolIndex.sorted f.declarations) := by
  intro a b p s
  have hp : p.ListsDistinct := by
    intro files hfiles
    cases hfiles
    decide
  have hagrees := index_agrees_with_cache 150 500 [.indexAll p, .changed p a "trait Bar",
    .sleep 150, .opened p b "class Baz", .definition p b ⟨0, 7⟩, .watched p [(b, .deleted)]]
    (by simp [Operation.ListsDistinct, hp]) a (by decide) (by decide) (by decide)
  exact ⟨by decide, hagrees⟩

end SymbolAtlas
