import Mathlib.Order.Basic
import SymbolAtlas.Proofs.DiskNews

/-!
# Live edits and their grace period

An edited file is not fetched from disk for a while, however often the disk tells of it. This module
follows one edit through everything that may happen to a service whose files are kept in memory: the
mark that an edit leaves is dropped by later edits once it has run out, the edit itself waits, is
applied by the timer, by a flush or with other files, or is folded into the index of the workspace,
and news about the file arrives alone or among news about others.

`Service.Protects s f expiry` is what survives all of it: applying what waits leads to the text `f`,
and the file is marked until `expiry`. An operation may break it only by speaking of the file
itself, or by indexing the workspace after the edit was applied; `Operation.Spares` excludes these.
That the clock has not reached `expiry` matters twice: other edits keep the mark, and events of the
file are not believed.

## Main results

* `Service.Settles.changed`: where a service leads that hears of an edit.
* `Service.Protects.step`, `Service.Protects.run`: one operation and a whole run keep the edit.
* `live_edit_protected`: within its grace period an edit is what ends up indexed.
-/

namespace SymbolAtlas

/-! ### Files in memory, whatever they are at the time -/

/-- The provider answers from files in memory, each under its own identifier. -/
def Provider.InMemory (p : Provider) : Prop := ∃ m : MemoryFiles, m.files.Keyed ∧ p = m.provider

/-- Files in memory are listed once each. -/
theorem Provider.InMemory.listsDistinct {p : Provider} (h : p.InMemory) : p.ListsDistinct := by
  obtain ⟨m, hkeyed, rfl⟩ := h
  intro files hfiles
  simp only [MemoryFiles.provider, MemoryFiles.guarded] at hfiles
  split at hfiles
  · cases hfiles
  · cases hfiles
    exact hkeyed.nodup_uris

/-- Files in memory are found only if they are asked for. -/
theorem Provider.InMemory.latest?_files {p : Provider} (h : p.InMemory) {uris : List Uri}
    {files : List FileEntry} (hfiles : p.files uris = .ok files) {u : Uri} (hu : u ∉ uris) :
    latest? files u = none := by
  obtain ⟨m, hkeyed, rfl⟩ := h
  simp only [MemoryFiles.provider, MemoryFiles.guarded] at hfiles
  split at hfiles
  · cases hfiles
  · cases hfiles
    rw [latest?_filterMap_get? hkeyed, if_neg hu]

/-! ### One file -/

namespace Batch

/-- What a new text of one file says of a file. -/
theorem word?_of_singleton (f : FileEntry) (u : Uri) :
    (of [f] []).word? u = if f.uri = u then some (some f) else none := by
  rw [word?_of, arrivalWord?, latest?_cons]
  by_cases h : f.uri = u <;> simp [h, latest?]

/-- To a file that is going to be cached with a batch it makes no difference if it is cached
before, too. -/
theorem Sound.overlay_putAll_singleton {b : Batch} (hb : b.Sound) (f : FileEntry)
    (m : UriMap FileEntry) :
    (b.merge [f] []).overlay (m.putAll [f]) = (Batch.of [f] []).overlay (b.overlay m) := by
  rw [hb.overlay_merge]
  refine UriMap.ext_get? fun u => ?_
  rw [(Sound.of _ _).get?_overlay, (Sound.of _ _).get?_overlay, word?_of_singleton]
  by_cases h : f.uri = u
  · simp [h]
  · simp [h, hb.get?_overlay, UriMap.get?_putAll, latest?]

end Batch

/-- A filter keeps what it is to keep. -/
theorem UriMap.get?_filter_of_get? {α : Type} {m : UriMap α} {u : Uri} {a : α}
    {keep : Uri → α → Bool} (hget : m.get? u = some a) (hkeep : keep u a = true) :
    (m.filter keep).get? u = some a := by
  rw [← UriMap.mem_entries_iff] at hget ⊢
  exact List.mem_filter.mpr ⟨hget, hkeep⟩

namespace FileStore

/-- Asking for a file leaves marks and grace period alone. -/
theorem marks_get (store : FileStore) (p : Provider) (u : Uri) :
    (store.get p u).store.marks = store.marks ∧ (store.get p u).store.grace = store.grace := by
  rw [get]
  split
  · exact ⟨rfl, rfl⟩
  · split
    · exact ⟨rfl, rfl⟩
    · split <;> exact ⟨rfl, rfl⟩

/-- Marking a file does not change what its name is. -/
theorem relativePath_markJustChanged (store : FileStore) (u : Uri) (now : Nat) (p : Provider) :
    ((store.markJustChanged u now).relativePath p u).value = (store.relativePath p u).value := by
  have hcached : (store.markJustChanged u now).cached? u = store.cached? u := rfl
  rw [relativePath, relativePath, hcached]
  split
  · rfl
  · split <;> rfl

end FileStore

namespace Operation

/-- The provider that the operation may ask. -/
def provider? : Operation → Option Provider
  | .indexAll p | .opened p _ _ | .changed p _ _ | .saved p _ _ | .watched p _
  | .definition p _ _ | .hover p _ _ | .organizeImports p _ => some p
  | .indexFiles _ | .search _ | .flush | .sleep _ | .shutdown => none

/-- The operation asks files in memory, if it asks. -/
def InMemory (op : Operation) : Prop := ∀ p ∈ op.provider?, p.InMemory

theorem InMemory.listsDistinct {op : Operation} (h : op.InMemory) : op.ListsDistinct := by
  cases op with
  | indexAll p => exact (h p rfl).listsDistinct
  | _ => trivial

/-- The document that the operation edits. -/
def edits? : Operation → Option Uri
  | .changed _ u _ => some u
  | .saved _ u (some _) => some u
  | _ => none

/-- The operation leaves an edit of the file alone: it neither edits, saves, indexes nor deletes the
file, and it indexes the workspace only while the edit waits. -/
def Spares (op : Operation) (s : Service) (u : Uri) : Prop :=
  match op with
  | .indexAll _ => (s.pending.file? u).isSome = true
  | .indexFiles files => u ∉ files.map (·.uri)
  | .changed _ v _ => v ≠ u
  | .saved _ v _ => v ≠ u
  | .watched _ changes => (u, .deleted) ∉ changes
  | _ => True

end Operation

namespace Service

/-- Every operation of a run leaves an edit of the file alone. -/
def Spares (s : Service) (u : Uri) : List Operation → Prop
  | [] => True
  | op :: ops => op.Spares s u ∧ (op.run s).Spares u ops

/-- A state that some run over files in memory reaches. -/
def ReachableInMemory (window grace : Nat) (s : Service) : Prop :=
  ∃ ops : List Operation, (∀ op ∈ ops, op.InMemory) ∧ (start window grace).run ops = s

variable {s s' : Service} {indexed cached : UriMap FileEntry}

/-! ### The clock and the marks -/

/-- From `s` to `t` time may have passed, but no mark was set or dropped. -/
structure KeepsMarks (s t : Service) : Prop where
  now_le : s.now ≤ t.now
  marks : t.files.marks = s.files.marks
  grace : t.files.grace = s.files.grace

theorem KeepsMarks.trans {t : Service} (h : s.KeepsMarks s') (h' : s'.KeepsMarks t) :
    s.KeepsMarks t :=
  ⟨h.now_le.trans h'.now_le, h'.marks.trans h.marks, h'.grace.trans h.grace⟩

theorem keepsMarks_noteCalls (s : Service) (calls : List Call) :
    s.KeepsMarks (s.noteCalls calls) := ⟨le_rfl, rfl, rfl⟩

theorem keepsMarks_schedule (s : Service) (files : List FileEntry) (deleted : List Uri) :
    s.KeepsMarks (s.schedule files deleted) := by
  rw [schedule, Scheduler.schedule]
  split <;> exact ⟨le_rfl, rfl, rfl⟩

theorem keepsMarks_scheduleFetched (s : Service) (answer : Except ProviderError (List FileEntry))
    (deleted : List Uri) : s.KeepsMarks (s.scheduleFetched answer deleted) := by
  cases answer with
  | ok files => exact keepsMarks_schedule s files deleted
  | error cause => exact keepsMarks_schedule s [] deleted

theorem keepsMarks_applyBatch? (s : Service) (b : Option Batch) :
    s.KeepsMarks (s.drained.applyBatch? b) := by
  cases b <;> exact ⟨le_rfl, rfl, rfl⟩

theorem keepsMarks_indexAll (s : Service) (p : Provider) : s.KeepsMarks (s.indexAll p).2 := by
  simp only [indexAll, takePending_eq]
  cases p.allFiles with
  | error cause =>
      exact (s.keepsMarks_noteCalls [.allFiles]).trans (keepsMarks_applyBatch? _ _)
  | ok files => exact ⟨le_rfl, rfl, rfl⟩

theorem keepsMarks_settle (s : Service) : s.KeepsMarks s.settle := by
  rcases settle_eq s with hsame | happlied
  · rw [hsame]
    exact ⟨le_rfl, rfl, rfl⟩
  · rw [happlied]
    exact s.keepsMarks_applyBatch? _

theorem keepsMarks_pass (s : Service) (ms : Nat) :
    s.KeepsMarks { s with scheduler := s.scheduler.pass ms } :=
  ⟨Nat.le_add_right _ _, rfl, rfl⟩

theorem keepsMarks_watched (s : Service) (p : Provider) (changes : List (Uri × Change)) :
    s.KeepsMarks (s.watched p changes) := by
  simp only [watched]
  split
  · exact keepsMarks_schedule s [] _
  · exact (s.keepsMarks_noteCalls _).trans (keepsMarks_scheduleFetched _ _ _)

/-- Only an edit sets or drops marks. -/
theorem keepsMarks_run (s : Service) {op : Operation} (hedits : op.edits? = none) :
    s.KeepsMarks (op.run s) := by
  cases op with
  | indexAll p => exact s.keepsMarks_indexAll p
  | indexFiles files => exact s.keepsMarks_applyBatch? (some _)
  | opened p u text =>
      have hstore := s.files.store_relativePath p u
      have hmarks : (s.files.relativePath p u).store.marks = s.files.marks := by rw [hstore]
      have hgrace : (s.files.relativePath p u).store.grace = s.files.grace := by rw [hstore]
      exact ⟨le_rfl, hmarks, hgrace⟩
  | changed p u text => cases hedits
  | saved p u text =>
      cases text with
      | some text => cases hedits
      | none => exact (s.keepsMarks_noteCalls _).trans (keepsMarks_scheduleFetched _ _ _)
  | watched p changes => exact s.keepsMarks_watched p changes
  | definition p u position => exact ⟨le_rfl, (s.files.marks_get p u).1, (s.files.marks_get p u).2⟩
  | hover p u position => exact ⟨le_rfl, (s.files.marks_get p u).1, (s.files.marks_get p u).2⟩
  | search query => exact ⟨le_rfl, rfl, rfl⟩
  | organizeImports p u => exact ⟨le_rfl, (s.files.marks_get p u).1, (s.files.marks_get p u).2⟩
  | flush => exact s.keepsMarks_applyBatch? _
  | sleep ms => exact (s.keepsMarks_pass ms).trans (keepsMarks_settle _)
  | shutdown =>
      have hflush := s.keepsMarks_applyBatch? (s.scheduler.collector.waiting.map Waiting.batch)
      exact ⟨hflush.now_le, hflush.marks, hflush.grace⟩

/-- The service after an edit, in the order in which it is heard: marked, cached, scheduled. -/
theorem changed_eq (s : Service) (p : Provider) (u : Uri) (text : String) :
    ∃ calls, s.changed p u text =
      { s.noteCalls calls with
        files := (s.files.markJustChanged u s.now).update
          [⟨u, (s.files.relativePath p u).value, text⟩] }.schedule
        [⟨u, (s.files.relativePath p u).value, text⟩] [] := by
  refine ⟨((s.files.markJustChanged u s.now).relativePath p u).calls, ?_⟩
  have hstore := (s.files.markJustChanged u s.now).store_relativePath p u
  have hvalue := s.files.relativePath_markJustChanged u s.now p
  simp only [changed, absorb, hstore]
  rw [← hvalue]
  rfl

/-! ### Where an edit leads -/

/-- **An edit** moves the goal by its text. -/
theorem Settles.changed (h : s.Settles indexed cached) (p : Provider) (u : Uri) (text : String) :
    let f : FileEntry := ⟨u, (s.files.relativePath p u).value, text⟩
    (s.changed p u text).Settles ((Batch.of [f] []).overlay indexed)
      ((Batch.of [f] []).overlay cached) := by
  intro f
  obtain ⟨calls, heq⟩ := s.changed_eq p u text
  obtain ⟨hsound, ⟨m, hm, rfl⟩, rfl⟩ := h
  have hpending : (s.changed p u text).pending = s.pending.merge [f] [] := by
    rw [heq]
    exact pending_schedule _ [f] []
  have hcache : (s.changed p u text).files.cache = s.files.cache.putAll [f] := by
    rw [heq]
    rfl
  have hindex : (s.changed p u text).index = s.index := by
    rw [heq]
    rfl
  constructor
  · rw [hpending]
    exact hsound.merge [f] []
  · exact ⟨m, hindex ▸ hm, by rw [hpending, hsound.overlay_merge]⟩
  · rw [hpending, hcache, hsound.overlay_putAll_singleton]

/-- An edit marks its file. -/
theorem marks_changed (s : Service) (p : Provider) (u : Uri) (text : String) :
    (s.changed p u text).files.marks = (s.files.markJustChanged u s.now).marks := by
  obtain ⟨calls, heq⟩ := s.changed_eq p u text
  rw [heq]
  rfl

/-- An edit takes no time and leaves the grace period alone. -/
theorem now_changed (s : Service) (p : Provider) (u : Uri) (text : String) :
    (s.changed p u text).now = s.now ∧ (s.changed p u text).files.grace = s.files.grace := by
  obtain ⟨calls, heq⟩ := s.changed_eq p u text
  rw [heq, schedule, Scheduler.schedule]
  exact ⟨rfl, rfl⟩

/-! ### A protected edit -/

/-- Applying what waits leads to the text `f`, and its file is marked until `expiry`. -/
structure Protects (s : Service) (f : FileEntry) (expiry : Nat) : Prop where
  settles : ∃ indexed cached, s.Settles indexed cached ∧ indexed.get? f.uri = some f
  mark : s.files.marks.get? f.uri = some expiry

variable {f : FileEntry} {expiry : Nat}

/-- What waits is well formed. -/
theorem Protects.sound (h : s.Protects f expiry) : s.pending.Sound := by
  obtain ⟨indexed, cached, hsettles, -⟩ := h.settles
  exact hsettles.sound

/-- Index, batch and marks as before. -/
theorem Protects.of_index (h : s.Protects f expiry) (hindex : s'.index = s.index)
    (hpending : s'.pending = s.pending) (hmarks : s.KeepsMarks s') : s'.Protects f expiry := by
  obtain ⟨⟨indexed, cached, ⟨hsound, hshows, -⟩, hget⟩, hmark⟩ := h
  refine ⟨⟨indexed, s'.pending.overlay s'.files.cache, ⟨?_, ?_, rfl⟩, hget⟩, ?_⟩
  · rw [hpending]
    exact hsound
  · rw [hindex, hpending]
    exact hshows
  · rw [hmarks.marks]
    exact hmark

/-- An arrival that says nothing of the file. -/
theorem Protects.schedule (h : s.Protects f expiry) {files : List FileEntry} {deleted : List Uri}
    (hword : arrivalWord? files deleted f.uri = none) :
    (s.schedule files deleted).Protects f expiry := by
  obtain ⟨⟨indexed, cached, hsettles, hget⟩, hmark⟩ := h
  refine ⟨⟨_, _, hsettles.schedule files deleted, ?_⟩, ?_⟩
  · rw [(Batch.Sound.of _ _).get?_overlay, Batch.word?_of, hword]
    exact hget
  · rw [(s.keepsMarks_schedule files deleted).marks]
    exact hmark

/-- The answer of files in memory to a request that does not ask for the file. -/
theorem Protects.scheduleFetched (h : s.Protects f expiry) {p : Provider} (hp : p.InMemory)
    {uris deleted : List Uri} (huris : f.uri ∉ uris) (hdeleted : f.uri ∉ deleted) :
    (s.scheduleFetched (p.files uris) deleted).Protects f expiry := by
  cases hfiles : p.files uris with
  | error cause => exact h.schedule (by simp [arrivalWord?, hdeleted, latest?])
  | ok files =>
      have hnone := hp.latest?_files hfiles huris
      exact h.schedule (by simp [arrivalWord?, hdeleted, hnone])

/-- What waits is applied. -/
theorem Protects.of_applied (h : s.Protects f expiry) (happlied : Applied s.pending s s')
    (hmarks : s.KeepsMarks s') : s'.Protects f expiry := by
  obtain ⟨⟨indexed, cached, hsettles, hget⟩, hmark⟩ := h
  exact ⟨⟨indexed, cached, hsettles.of_applied happlied, hget⟩, hmarks.marks ▸ hmark⟩

/-- Other files are indexed together with what waits. -/
theorem Protects.indexFiles (h : s.Protects f expiry) {files : List FileEntry}
    (hfiles : f.uri ∉ files.map (·.uri)) : (s.indexFiles files).2.Protects f expiry := by
  obtain ⟨⟨indexed, cached, hsettles, hget⟩, hmark⟩ := h
  have hword : arrivalWord? files [] f.uri = none := by
    simp [arrivalWord?, latest?_eq_none_iff.mpr hfiles]
  refine ⟨⟨_, _, hsettles.indexFiles files, ?_⟩, hmark⟩
  rw [(Batch.Sound.of _ _).get?_overlay, Batch.word?_of, hword]
  exact hget

/-- The workspace is indexed while a text of the file waits: that text is the edit. -/
theorem Protects.of_rebuilt (h : s.Protects f expiry) {files : List FileEntry}
    (hrebuilt : Rebuilt files s s') (hwaits : (s.pending.file? f.uri).isSome = true)
    (hmarks : s.KeepsMarks s') : s'.Protects f expiry := by
  obtain ⟨⟨indexed, cached, hsettles, hget⟩, hmark⟩ := h
  obtain ⟨g, hg⟩ := Option.isSome_iff_exists.mp hwaits
  have hsound := hsettles.sound
  have hword : s.pending.word? f.uri = some (some g) := by
    rw [Batch.word?, hg, if_neg]
    · rfl
    · intro hdeleted
      rw [hsound.disjoint _ hdeleted] at hg
      cases hg
  -- the text that waits decides both where the service led and what is indexed now
  obtain ⟨m, -, rfl⟩ := hsettles.index
  rw [hsound.get?_overlay, hword] at hget
  refine ⟨⟨_, _, Settles.of_rebuilt hrebuilt, ?_⟩, hmarks.marks ▸ hmark⟩
  rw [hsound.get?_overlay, hword]
  exact hget

theorem Protects.indexAll (h : s.Protects f expiry) {p : Provider} (hp : p.ListsDistinct)
    (hwaits : (s.pending.file? f.uri).isSome = true) : (s.indexAll p).2.Protects f expiry := by
  have hmarks := s.keepsMarks_indexAll p
  cases hfiles : p.allFiles with
  | error cause => exact h.of_applied (applied_indexAll h.sound hfiles) hmarks
  | ok files =>
      exact h.of_rebuilt (rebuilt_indexAll h.sound hfiles (hp files hfiles)) hwaits hmarks

/-- Another document is edited before the mark has run out. -/
theorem Protects.changed (h : s.Protects f expiry) (p : Provider) {v : Uri} (hv : v ≠ f.uri)
    (text : String) (hnow : s.now < expiry) : (s.changed p v text).Protects f expiry := by
  obtain ⟨⟨indexed, cached, hsettles, hget⟩, hmark⟩ := h
  refine ⟨⟨_, _, hsettles.changed p v text, ?_⟩, ?_⟩
  · rw [(Batch.Sound.of _ _).get?_overlay, Batch.word?_of_singleton, if_neg hv]
    exact hget
  · rw [marks_changed, FileStore.markJustChanged, UriMap.get?_insert, if_neg hv]
    exact UriMap.get?_filter_of_get? hmark (by simpa using hnow)

theorem Protects.saved (h : s.Protects f expiry) {p : Provider} (hp : p.InMemory) {v : Uri}
    (hv : v ≠ f.uri) (text : Option String) (hnow : s.now < expiry) :
    (s.saved p v text).Protects f expiry := by
  cases text with
  | some text => exact h.changed p hv text hnow
  | none =>
      have hnoted : (s.noteCalls [.files [v]]).Protects f expiry :=
        h.of_index rfl rfl (s.keepsMarks_noteCalls _)
      exact hnoted.scheduleFetched hp (by simpa using hv.symm) List.not_mem_nil

/-- News from disk before the mark has run out: the file is not fetched. -/
theorem Protects.watched (h : s.Protects f expiry) {p : Provider} (hp : p.InMemory)
    {changes : List (Uri × Change)} (hchanges : (f.uri, .deleted) ∉ changes)
    (hnow : s.now < expiry) : (s.watched p changes).Protects f expiry := by
  have hmarked : s.files.isJustChanged f.uri s.now = true := by
    rw [FileStore.isJustChanged, h.mark]
    exact decide_eq_true hnow
  have hrefetch : f.uri ∉ s.toRefetch changes := by
    rw [mem_toRefetch, hmarked]
    rintro ⟨-, hfalse⟩
    cases hfalse
  have hdrop : f.uri ∉ toDrop changes := mt mem_toDrop.mp hchanges
  simp only [Service.watched]
  split
  · exact h.schedule (by simp [arrivalWord?, hdrop, latest?])
  · have hnoted : (s.noteCalls [.files (s.toRefetch changes)]).Protects f expiry :=
      h.of_index rfl rfl (s.keepsMarks_noteCalls _)
    exact hnoted.scheduleFetched hp hrefetch hdrop

theorem Protects.flush (h : s.Protects f expiry) : s.flush.2.Protects f expiry :=
  h.of_applied (applied_flush h.sound) (s.keepsMarks_applyBatch? _)

theorem Protects.sleep (h : s.Protects f expiry) (ms : Nat) : (s.sleep ms).Protects f expiry := by
  have hpass : Protects { s with scheduler := s.scheduler.pass ms } f expiry :=
    h.of_index rfl rfl (s.keepsMarks_pass ms)
  rcases settle_cases hpass.sound with hsame | happlied
  · rw [Service.sleep, hsame]
    exact hpass
  · exact hpass.of_applied happlied (keepsMarks_settle _)

/-- **One operation** that spares the edit keeps it, as long as the mark has not run out. -/
theorem Protects.step (h : s.Protects f expiry) {op : Operation} (hmem : op.InMemory)
    (hspares : op.Spares s f.uri) (hnow : s.now < expiry) : (op.run s).Protects f expiry := by
  have hmarks (hedits : op.edits? = none) : s.KeepsMarks (op.run s) := s.keepsMarks_run hedits
  cases op with
  | indexAll p => exact h.indexAll (hmem p rfl).listsDistinct hspares
  | indexFiles files => exact h.indexFiles hspares
  | opened p v text => exact h.of_index rfl rfl (hmarks rfl)
  | changed p v text => exact h.changed p hspares text hnow
  | saved p v text => exact h.saved (hmem p rfl) hspares text hnow
  | watched p changes => exact h.watched (hmem p rfl) hspares hnow
  | definition p v position => exact h.of_index rfl rfl (hmarks rfl)
  | hover p v position => exact h.of_index rfl rfl (hmarks rfl)
  | search query => exact h.of_index rfl rfl (hmarks rfl)
  | organizeImports p v => exact h.of_index rfl rfl (hmarks rfl)
  | flush => exact h.flush
  | sleep ms => exact h.sleep ms
  | shutdown =>
      have hstop : s.flush.2.KeepsMarks s.shutdown := ⟨le_rfl, rfl, rfl⟩
      exact h.flush.of_index rfl rfl hstop

/-- No operation turns the clock back or changes the grace period. -/
theorem now_le_run_op (s : Service) (op : Operation) :
    s.now ≤ (op.run s).now ∧ (op.run s).files.grace = s.files.grace := by
  have hkept (hedits : op.edits? = none) : s.now ≤ (op.run s).now ∧
      (op.run s).files.grace = s.files.grace :=
    ⟨(s.keepsMarks_run hedits).now_le, (s.keepsMarks_run hedits).grace⟩
  have hchanged (p : Provider) (u : Uri) (text : String) : s.now ≤ (s.changed p u text).now ∧
      (s.changed p u text).files.grace = s.files.grace :=
    ⟨(s.now_changed p u text).1.ge, (s.now_changed p u text).2⟩
  cases op with
  | changed p u text => exact hchanged p u text
  | saved p u text =>
      cases text with
      | some text => exact hchanged p u text
      | none => exact hkept rfl
  | _ => exact hkept rfl

/-- No run turns the clock back or changes the grace period. -/
theorem now_le_run (s : Service) (ops : List Operation) :
    s.now ≤ (s.run ops).now ∧ (s.run ops).files.grace = s.files.grace := by
  refine run_induction (P := fun t => s.now ≤ t.now ∧ t.files.grace = s.files.grace)
    ⟨le_rfl, rfl⟩ ?_
  rintro t op - ⟨hnow, hgrace⟩
  obtain ⟨hnow', hgrace'⟩ := t.now_le_run_op op
  exact ⟨hnow.trans hnow', hgrace'.trans hgrace⟩

/-- **A run** that spares the edit and ends before the mark has run out keeps it. -/
theorem Protects.run (h : s.Protects f expiry) {ops : List Operation}
    (hmem : ∀ op ∈ ops, op.InMemory) (hspares : s.Spares f.uri ops)
    (hnow : (s.run ops).now < expiry) : (s.run ops).Protects f expiry := by
  induction ops generalizing s with
  | nil => exact h
  | cons op ops ih =>
      have hstart : s.now < expiry := (s.now_le_run (op :: ops)).1.trans_lt hnow
      have hstep := h.step (hmem op List.mem_cons_self) hspares.1 hstart
      exact ih hstep (fun op hop => hmem op (List.mem_cons_of_mem _ hop)) hspares.2 hnow

/-- Just after an edit, it is protected for the grace period. -/
theorem Settles.protects_changed (h : s.Settles indexed cached) (p : Provider) (u : Uri)
    (text : String) :
    (s.changed p u text).Protects ⟨u, (s.files.relativePath p u).value, text⟩
      (s.now + s.files.grace) := by
  refine ⟨⟨_, _, h.changed p u text, ?_⟩, ?_⟩
  · rw [(Batch.Sound.of _ _).get?_overlay, Batch.word?_of_singleton, if_pos rfl]
    rfl
  · rw [marks_changed, FileStore.markJustChanged, UriMap.get?_insert, if_pos rfl]

/-- After a flush the index shows of a protected file what its text declares. -/
theorem Protects.filter_declarations (h : s.Protects f expiry) :
    s.flush.2.index.declarations.filter (fun d => d.uri == f.uri) =
      SymbolIndex.sorted f.declarations := by
  obtain ⟨⟨indexed, cached, hsettles, hget⟩, -⟩ := h
  obtain ⟨hflushed, hempty⟩ := hsettles.flush
  rw [(hflushed.shows hempty).filter_declarations, hget]
  simp [declarationsIn]

end Service

/-- **A live edit is protected during its grace period.** In any run over files in memory, whatever
they are at each step and whether or not they are in reach, let a file be edited, by a change or by
saving it with its text. If until a later time within the grace period nothing edits, saves, indexes
or deletes the file, and the workspace is not indexed once the edit no longer waits, then after a
flush at that time the index shows of the file what the edited text declares, under the name that
the edit found for it. Anything else may happen in between: news that the file was created or
changed, operations on other files, look-ups, and the timer (a `sleep` of any length, zero
included). -/
theorem live_edit_protected (window grace : Nat) (s : Service)
    (hs : s.ReachableInMemory window grace) (p : Provider) (u : Uri) (text : String)
    (edit : Operation) (hedit : edit = .changed p u text ∨ edit = .saved p u (some text))
    (after : List Operation) (hafter : ∀ op ∈ after, op.InMemory)
    (hspares : (edit.run s).Spares u after)
    (htime : ((edit.run s).run after).now < s.now + grace) :
    let f : FileEntry := ⟨u, (s.files.relativePath p u).value, text⟩
    ((edit.run s).run after).flush.2.index.declarations.filter (fun d => d.uri == u) =
      SymbolIndex.sorted f.declarations := by
  intro f
  obtain ⟨before, hbefore, rfl⟩ := hs
  have hlists : ∀ op ∈ before, op.ListsDistinct := fun op hop => (hbefore op hop).listsDistinct
  obtain ⟨indexed, cached, hsettles⟩ := Service.exists_settles_run window grace hlists
  have hrun : edit.run ((Service.start window grace).run before) =
      ((Service.start window grace).run before).changed p u text := by
    rcases hedit with rfl | rfl <;> rfl
  have hgrace := ((Service.start window grace).now_le_run before).2
  have hprotects := hsettles.protects_changed p u text
  rw [hgrace] at hprotects
  rw [hrun] at hspares htime ⊢
  exact (hprotects.run hafter hspares htime).filter_declarations

/-- A file is saved with its text, the disk tells that it and another file changed, the workspace is
indexed while the edit waits, the timer runs, and the disk tells of the file again, which has
another text there by then; in the end the files are out of reach. -/
theorem live_edit_protected_folded :
    let a : Uri := ⟨"file:///a"⟩
    let b : Uri := ⟨"file:///b"⟩
    let m := MemoryFiles.of [⟨a, "a", "class Foo"⟩, ⟨b, "b", "trait Bar"⟩]
    let later := m.put ⟨a, "a", "class Stale"⟩
    let offline := { later with failing := true }
    let s := (Service.start 150 500).run [.indexAll m.provider]
    let edit : Operation := .saved m.provider a (some "class Edited")
    let after : List Operation := [.watched m.provider [(a, .changed), (b, .deleted)],
      .indexAll later.provider, .sleep 150, .watched later.provider [(b, .created), (a, .created)],
      .changed later.provider b "trait Baz", .sleep 349, .watched offline.provider [(a, .changed)]]
    s.ReachableInMemory 150 500 ∧ (edit.run s).Spares a after ∧
      ((edit.run s).run after).now = s.now + 499 ∧
      ((edit.run s).run after).flush.2.index.declarations.filter (fun d => d.uri == a) =
        SymbolIndex.sorted (FileEntry.declarations ⟨a, "a", "class Edited"⟩) := by
  intro a b m later offline s edit after
  have hm : m.provider.InMemory := ⟨m, UriMap.keyed_empty.putAll _, rfl⟩
  have hlater : later.provider.InMemory := ⟨later, (UriMap.keyed_empty.putAll _).putAll [_], rfl⟩
  have hoffline : offline.provider.InMemory :=
    ⟨offline, (UriMap.keyed_empty.putAll _).putAll [_], rfl⟩
  have hs : s.ReachableInMemory 150 500 :=
    ⟨[.indexAll m.provider], by simpa [Operation.InMemory, Operation.provider?] using hm, rfl⟩
  have hafter : ∀ op ∈ after, op.InMemory := by
    simp [after, Operation.InMemory, Operation.provider?, hm, hlater, hoffline]
  have hwaits : (((edit.run s).watched m.provider
      [(a, .changed), (b, .deleted)]).pending.file? a).isSome = true := by decide +kernel
  have hspares : (edit.run s).Spares a after := by
    simp only [after, Service.Spares, Operation.Spares]
    exact ⟨by decide, hwaits, trivial, by decide, by decide, trivial, by decide, trivial⟩
  have htime : ((edit.run s).run after).now = s.now + 499 := by decide +kernel
  have hlt : ((edit.run s).run after).now < s.now + 500 := by omega
  have hname : (s.files.relativePath m.provider a).value = "a" := by decide +kernel
  have hedit := live_edit_protected 150 500 s hs m.provider a "class Edited" edit (.inr rfl) after
    hafter hspares hlt
  rw [hname] at hedit
  exact ⟨hs, hspares, htime, hedit⟩

end SymbolAtlas
