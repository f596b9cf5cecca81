import Mathlib.Data.List.Basic
import SymbolAtlas.Disk.Workspace
import SymbolAtlas.Proofs.BatchHistory
import SymbolAtlas.Proofs.Immediate
import SymbolAtlas.Proofs.PathSpelling

/-!
# Files on disk answer under the identifier of their path

A provider that reads from disk follows the identifier that it is asked for to a path, and answers
with the identifier of the path. The two are the same if the identifier is spelled as paths spell
it, and only then. Otherwise the store, which looks for the identifier that it asked for, finds
nothing in the answer, and what the index holds under the identifier of the path is not dropped by
news of a deletion under the other one.

What the index holds of a file is followed through one batch at a time, for any index: `declared`
is what it shows of an identifier, and a batch that has a word on the identifier replaces it.

## Main results

* `Service.declared_flush`: what a flush makes of the declarations of one file.
* `Service.sound_pending_run`: what waits has one word on each file, in every run.
* `Disk.Workspace.files_singleton`: the answer to a question for one file.
* `disk_answers_asked_iff`: when the answer is found, and when a deletion is heard.
-/

namespace SymbolAtlas

/-! ### What an index shows of one file -/

namespace Service

variable {s : Service}

/-- What the index shows of a file. -/
def declared (s : Service) (u : Uri) : List Declaration :=
  s.index.declarations.filter fun d => d.uri == u

/-- What is declared of a file after a word on it. -/
def declaredAfter (word : Option (Option FileEntry)) (old : List Declaration) : List Declaration :=
  match word with
  | none => old
  | some file? => declarationsIn file?.toList

/-- An update drops what is out of date of a file, and adds what its new text declares. -/
theorem declared_update (index : SymbolIndex) (files : List FileEntry) (removed : List Uri)
    (u : Uri) :
    ((index.update files removed).declarations.filter fun d => d.uri == u).Perm
      ((if u ∈ files.map (·.uri) ++ removed then []
        else index.declarations.filter fun d => d.uri == u) ++
          declarationsIn (files.filter fun f => f.uri == u)) := by
  have hperm : (index.update files removed).declarations.Perm
      ((index.drained.filter fun d => !(files.map (·.uri) ++ removed).contains d.uri) ++
        declarationsIn files) :=
    (SymbolIndex.sorted_perm _).trans (SymbolIndex.drained_ofDeclarations _)
  refine (hperm.filter _).trans ?_
  rw [List.filter_append, filter_declarationsIn files (fun v => v == u), List.filter_filter]
  refine List.Perm.append_right _ ?_
  split
  next hstale =>
    refine List.Perm.of_eq (List.filter_eq_nil_iff.mpr fun d _ => ?_)
    simp only [Bool.and_eq_true, beq_iff_eq, not_and]
    rintro rfl
    rw [List.contains_iff_mem.mpr hstale]
    exact Bool.false_ne_true
  next hkept =>
    refine List.Perm.trans (.of_eq (List.filter_congr fun d _ => ?_))
      ((SymbolIndex.sorted_perm _).filter _).symm
    by_cases hd : d.uri = u
    · simpa [hd] using hkept
    · simp [hd]

/-- **A batch replaces what it has a word on** and leaves everything else. -/
theorem declared_applyBatch {b : Batch} (hb : b.Sound) (s : Service) (u : Uri) :
    ((s.applyBatch b).declared u).Perm (declaredAfter (b.word? u) (s.declared u)) := by
  have hnew : b.fileList.filter (fun f => f.uri == u) = (b.word? u).join.toList := by
    rw [← hb.file?_eq u]
    exact hb.keyed.filter_values u
  have hlisted : u ∈ b.fileList.map (·.uri) ++ b.deletedList ↔ b.word? u ≠ none :=
    hb.mem_listed_iff
  have hperm := declared_update s.index b.fileList b.deletedList u
  rw [hnew] at hperm
  refine hperm.trans (.of_eq ?_)
  cases hword : b.word? u with
  | none =>
      rw [if_neg (by rw [hlisted, hword]; simp)]
      exact List.append_nil _
  | some file? =>
      rw [if_pos (by rw [hlisted, hword]; simp)]
      rfl

/-- A flush does so with what waits. -/
theorem declared_flush (hs : s.pending.Sound) (u : Uri) :
    (s.flush.2.declared u).Perm (declaredAfter (s.pending.word? u) (s.declared u)) := by
  rw [flush, takePending_eq]
  rw [pending] at hs ⊢
  cases hwaiting : s.scheduler.collector.waiting with
  | none => exact .refl _
  | some w =>
      rw [hwaiting] at hs
      exact declared_applyBatch hs s.drained u

/-! ### What waits, in every run -/

/-- Nothing waits if the scheduler was drained. -/
theorem sound_of_drained {t : Service} (h : t.scheduler = s.drained.scheduler) :
    t.pending.Sound := by
  rw [pending_eq_empty (hasPending_of_scheduler h)]
  exact .empty

theorem sound_schedule (hs : s.pending.Sound) (files : List FileEntry) (deleted : List Uri) :
    (s.schedule files deleted).pending.Sound := by
  rw [pending_schedule]
  exact hs.merge files deleted

theorem sound_scheduleFetched (hs : s.pending.Sound)
    (answer : Except ProviderError (List FileEntry)) (deleted : List Uri) :
    (s.scheduleFetched answer deleted).pending.Sound := by
  cases answer with
  | ok files => exact sound_schedule hs files deleted
  | error cause => exact sound_schedule hs [] deleted

/-- **Every operation** leaves one word on each file. -/
theorem sound_pending_step (hs : s.pending.Sound) (op : Operation) : (op.run s).pending.Sound := by
  have hchanged (p : Provider) (u : Uri) (text : String) : (s.changed p u text).pending.Sound := by
    refine sound_schedule ?_ _ _
    exact hs
  have hflush : s.flush.2.pending.Sound := sound_of_drained (scheduler_applyBatch? _ _)
  cases op with
  | indexAll p => exact sound_of_drained (scheduler_indexAll s p)
  | indexFiles files => exact sound_of_drained rfl
  | opened p u text => exact hs
  | changed p u text => exact hchanged p u text
  | saved p u text =>
      cases text with
      | some text => exact hchanged p u text
      | none => exact sound_scheduleFetched (s := s.noteCalls [.files [u]]) hs _ _
  | watched p changes =>
      simp only [Operation.run, watched]
      split
      · exact sound_schedule hs _ _
      · exact sound_scheduleFetched (s := s.noteCalls _) hs _ _
  | definition p u position => exact hs
  | hover p u position => exact hs
  | search query => exact hs
  | organizeImports p u => exact hs
  | flush => exact hflush
  | sleep ms =>
      simp only [Operation.run, sleep]
      rcases settle_eq { s with scheduler := s.scheduler.pass ms } with hsame | htaken
      · rw [hsame]
        exact hs
      · rw [htaken]
        exact sound_of_drained (scheduler_applyBatch? _ _)
  | shutdown => exact hflush

/-- **In every run** what waits has one word on each file. -/
theorem sound_pending_run (hs : s.pending.Sound) (ops : List Operation) :
    (s.run ops).pending.Sound :=
  run_induction (P := fun s => s.pending.Sound) hs fun _ op _ h => sound_pending_step h op

/-! ### News of one file -/

/-- **A file that is heard of and can be read** is what the index shows of its identifier. -/
theorem declared_watched (hs : s.pending.Sound) {p : Provider} {u : Uri} {f : FileEntry}
    (hfiles : p.files [u] = .ok [f]) {kind : Change} (hkind : kind ≠ .deleted)
    (hmark : s.files.isJustChanged u s.now = false) :
    ((s.watched p [(u, kind)]).flush.2.declared f.uri).Perm f.declarations := by
  have hrefetch : s.toRefetch [(u, kind)] = [u] := by simp [toRefetch, hkind, hmark]
  have hdrop : toDrop [(u, kind)] = [] := by simp [toDrop, hkind]
  have hwatched : s.watched p [(u, kind)] = (s.noteCalls [.files [u]]).schedule [f] [] := by
    rw [watched, hrefetch, hdrop, hfiles]
    rfl
  have hword : arrivalWord? [f] [] f.uri = some (some f) := by simp [arrivalWord?, latest?]
  rw [hwatched]
  refine (declared_flush (sound_schedule (s := s.noteCalls _) hs _ _) f.uri).trans (.of_eq ?_)
  rw [pending_schedule, Batch.word?_merge, hword, Option.some_or]
  simp [declaredAfter, declarationsIn]

/-- **A deletion** drops what the index shows of the identifier, and nothing else. -/
theorem declared_watched_deleted (hs : s.pending.Sound) (p : Provider) (u v : Uri) :
    ((s.watched p [(u, .deleted)]).flush.2.declared v).Perm
      (if v = u then [] else s.flush.2.declared v) := by
  have hwatched : s.watched p [(u, .deleted)] = s.schedule [] [u] := rfl
  rw [hwatched]
  refine (declared_flush (sound_schedule hs _ _) v).trans ?_
  rw [pending_schedule, Batch.word?_merge]
  by_cases hv : v = u
  · rw [if_pos hv, arrivalWord?, if_pos (List.mem_singleton.mpr hv), Option.some_or]
    exact .refl _
  · rw [if_neg hv, arrivalWord?, if_neg (mt List.mem_singleton.mp hv)]
    exact (declared_flush hs v).symm

end Service

/-! ### The provider that reads from disk -/

namespace Disk.Workspace

variable {w : Workspace} {u : Uri} {f : FileEntry}

/-- **The answer to a question for one file.** -/
theorem files_singleton (w : Workspace) (u : Uri) :
    w.provider.files [u] = match Path.ofUri? u with
      | some p => .ok (w.read? p).toList
      | none => .error (.invalidUri u) := by
  simp only [provider, List.mapM_cons, List.mapM_nil, pathOf]
  cases Path.ofUri? u with
  | none => rfl
  | some p =>
      change Except.ok ([p].filterMap w.read?) = _
      cases h : w.read? p <;> simp [h]

/-- A file that is answered is the only one, and has the identifier of the path. -/
theorem mem_files_singleton {files : List FileEntry} (hfiles : w.provider.files [u] = .ok files)
    (hf : f ∈ files) : ∃ p, Path.ofUri? u = some p ∧ p.toUri? = some f.uri ∧ files = [f] := by
  rw [files_singleton] at hfiles
  cases hpath : Path.ofUri? u with
  | none =>
      rw [hpath] at hfiles
      cases hfiles
  | some p =>
      rw [hpath] at hfiles
      cases hfiles
      have hread := Option.mem_toList.mp hf
      refine ⟨p, rfl, ?_, congrArg Option.toList hread⟩
      rw [read?] at hread
      obtain ⟨v, hv, hread⟩ := Option.bind_eq_some_iff.mp hread
      obtain ⟨text, -, hread⟩ := Option.bind_eq_some_iff.mp hread
      cases hread
      exact hv

/-- A text at the path of an identifier is answered. -/
theorem exists_files_singleton {p : Path} {text : List Char} (hpath : Path.ofUri? u = some p)
    (htext : w.tree.readText? p = some text) :
    ∃ v, p.toUri? = some v ∧
      w.provider.files [u] = .ok [⟨v, w.relativePath p, String.ofList text⟩] := by
  obtain ⟨v, hv⟩ := Path.exists_toUri?_of_ofUri? hpath
  have hread : w.read? p = some ⟨v, w.relativePath p, String.ofList text⟩ := by
    rw [read?, hv, htext]
    rfl
  refine ⟨v, hv, ?_⟩
  rw [files_singleton, hpath]
  simp only [hread, Option.toList_some]

/-- The identifier of the path is the one that was asked for if it is spelled so. -/
theorem toUri?_eq_asked_iff {p : Path} {v : Uri} (hpath : Path.ofUri? u = some p)
    (hv : p.toUri? = some v) : v = u ↔ ∃ q : Path, q.toUri? = some u := by
  rw [← Path.respell?_eq_self_iff, Path.respell?, hpath, Option.bind_some, hv, Option.some_inj]

end Disk.Workspace

/-- The store looks for the identifier that it asked for. -/
theorem FileStore.get_of_not_cached {store : FileStore} {p : Provider} {u : Uri} {f : FileEntry}
    (hcached : store.cached? u = none) (hfiles : p.files [u] = .ok [f]) :
    (store.get p u).value = if f.uri = u then .ok f else .error (.contentUnavailable u) := by
  rw [FileStore.get, hcached]
  simp only [hfiles]
  by_cases hu : f.uri = u <;> simp [hu]

/-- **Files on disk are found under the identifiers that paths have, and only under those.** For any
tree of files, any folders and any identifier:
* a file that is answered for the identifier has this identifier if it is that of some path, and
  only then;
* the store, asked for a file that it does not have and whose path leads to a text, finds the file
  in the one case and nothing in the other;
* in any run, hearing that a file was created or changed puts what it declares into the index; when
  the deletion of the identifier is heard later, whatever has happened in between, the index has
  nothing of it, and so has nothing of the file in the one case. In the other case it has of the
  file what it had, so all that it declares if nothing has happened in between. -/
theorem disk_answers_asked_iff (w : Disk.Workspace) (u : Uri) :
    let canonical := ∃ p : Disk.Path, p.toUri? = some u
    (∀ files f, w.provider.files [u] = .ok files → f ∈ files → (f.uri = u ↔ canonical)) ∧
    (∀ p text (store : FileStore), Disk.Path.ofUri? u = some p → w.tree.readText? p = some text →
      store.cached? u = none →
      (canonical → (store.get w.provider u).value =
        .ok ⟨u, w.relativePath p, String.ofList text⟩) ∧
      (¬canonical → (store.get w.provider u).value = .error (.contentUnavailable u))) ∧
    ∀ files f, w.provider.files [u] = .ok files → f ∈ files →
      ∀ window grace ops kind later (deleting : Provider),
        let s := (Service.start window grace).run ops
        kind ≠ .deleted → s.files.isJustChanged u s.now = false →
        let indexed := (s.watched w.provider [(u, kind)]).flush.2
        let before := indexed.run later
        let after := (before.watched deleting [(u, .deleted)]).flush.2
        (indexed.declared f.uri).Perm f.declarations ∧ after.declared u = [] ∧
          (canonical → after.declared f.uri = []) ∧
          (¬canonical → (after.declared f.uri).Perm (before.flush.2.declared f.uri) ∧
            (later = [] → (after.declared f.uri).Perm f.declarations)) := by
  intro canonical
  have hasked {files : List FileEntry} {f : FileEntry} (hfiles : w.provider.files [u] = .ok files)
      (hf : f ∈ files) : f.uri = u ↔ canonical := by
    obtain ⟨p, hpath, hv, -⟩ := Disk.Workspace.mem_files_singleton hfiles hf
    exact Disk.Workspace.toUri?_eq_asked_iff hpath hv
  refine ⟨fun files f => hasked, ?_, ?_⟩
  · intro p text store hpath htext hcached
    obtain ⟨v, hv, hfiles⟩ := Disk.Workspace.exists_files_singleton hpath htext
    have hget := FileStore.get_of_not_cached hcached hfiles
    have hiff := Disk.Workspace.toUri?_eq_asked_iff hpath hv
    constructor
    · intro hcanonical
      obtain rfl := hiff.mpr hcanonical
      rw [hget, if_pos rfl]
    · intro hother
      rw [hget, if_neg (mt hiff.mp hother)]
  · intro files f hfiles hf window grace ops kind later deleting s hkind hmark indexed before after
    obtain ⟨-, -, -, rfl⟩ := Disk.Workspace.mem_files_singleton hfiles hf
    have hstart : (Service.start window grace).pending.Sound := Batch.Sound.empty
    have hsound : s.pending.Sound := Service.sound_pending_run hstart ops
    have hindexed : (indexed.declared f.uri).Perm f.declarations :=
      Service.declared_watched hsound hfiles hkind hmark
    have hwatched := Service.sound_pending_step hsound (.watched w.provider [(u, kind)])
    have hflushed := Service.applied_flush hwatched
    have hbefore : before.pending.Sound :=
      Service.sound_pending_run (hflushed.pending ▸ Batch.Sound.empty) later
    have hafter := Service.declared_watched_deleted hbefore deleting u
    have hdropped : after.declared u = [] := by
      have hperm := hafter u
      rw [if_pos rfl] at hperm
      exact hperm.eq_nil
    refine ⟨hindexed, hdropped, fun hcanonical => ?_, fun hother => ?_⟩
    · rw [(hasked hfiles hf).mpr hcanonical]
      exact hdropped
    · have hkept := hafter f.uri
      rw [if_neg (mt (hasked hfiles hf).mp hother)] at hkept
      refine ⟨hkept, ?_⟩
      rintro rfl
      -- nothing waits for this flush
      have hidle := Service.declared_flush hbefore f.uri
      have hempty : before.pending = .empty := hflushed.pending
      rw [hempty, Batch.word?_empty] at hidle
      exact hkept.trans (hidle.trans hindexed)

/-- A name with a blank in it, which paths spell by its number: the file is created, found, and
dropped again. -/
theorem disk_answers_asked_iff_blank :
    let u : Uri := ⟨"file:///W/A%20B.scala"⟩
    let tree := (Disk.FileTree.emptyAt [.ofString "W"]).put [.ofString "A B.scala"]
      (.file (Text.toUtf8 "class Foo".toList))
    let w : Disk.Workspace := ⟨tree, [.ofString "/W"], ["scala"]⟩
    let f : FileEntry := ⟨u, "A B.scala", "class Foo"⟩
    let indexed := ((Service.start 150 500).watched w.provider [(u, .created)]).flush.2
    let after := (indexed.watched w.provider [(u, .deleted)]).flush.2
    w.provider.files [u] = .ok [f] ∧ (∃ p : Disk.Path, p.toUri? = some u) ∧
      ((FileStore.empty 500).get w.provider u).value = .ok f ∧
      (indexed.declared u).Perm f.declarations ∧ after.declared u = [] := by
  intro u tree w f indexed after
  have hfiles : w.provider.files [u] = .ok [f] := by decide +kernel
  obtain ⟨hasked, hstore, hnews⟩ := disk_answers_asked_iff w u
  have hcanonical := (hasked [f] f hfiles (List.mem_singleton_self f)).mp rfl
  obtain ⟨hindexed, hdropped, -, -⟩ := hnews [f] f hfiles (List.mem_singleton_self f) 150 500 []
    .created [] w.provider (by decide) rfl
  have hpath : Disk.Path.ofUri? u = some (.ofString "/W/A B.scala") := by decide +kernel
  have htext : w.tree.readText? (.ofString "/W/A B.scala") = some "class Foo".toList := by
    decide +kernel
  obtain ⟨hfound, -⟩ := hstore _ _ (.empty 500) hpath htext rfl
  have hname : w.relativePath (.ofString "/W/A B.scala") = "A B.scala" := by decide +kernel
  rw [hname, String.ofList_toList] at hfound
  exact ⟨hfiles, hcanonical, hfound hcanonical, hindexed, hdropped⟩

/-- **A file on disk can be answered under another identifier.** A client writes a plus sign by its
number, which paths do not. The file is read, but answered under the identifier of its path: the
store does not find it, and what the index holds of it outlives the news of its deletion. -/
theorem disk_answers_respelled :
    let u : Uri := ⟨"file:///W/A%2BB.scala"⟩
    let tree := (Disk.FileTree.emptyAt [.ofString "W"]).put [.ofString "A+B.scala"]
      (.file (Text.toUtf8 "class Foo".toList))
    let w : Disk.Workspace := ⟨tree, [.ofString "/W"], ["scala"]⟩
    let gone : Disk.Workspace := { w with tree := tree.remove [.ofString "A+B.scala"] }
    let f : FileEntry := ⟨⟨"file:///W/A+B.scala"⟩, "A+B.scala", "class Foo"⟩
    let indexed := ((Service.start 150 500).watched w.provider [(u, .created)]).flush.2
    let after := (indexed.watched gone.provider [(u, .deleted)]).flush.2
    (w.provider.files [u] = .ok [f] ∧ f.uri ≠ u) ∧
      ((FileStore.empty 500).get w.provider u).value = .error (.contentUnavailable u) ∧
      after.index.declarations = [⟨"Foo", .classLike, f.source, ⟨0, 6⟩⟩] := by
  intro u tree w gone f indexed after
  have hfiles : w.provider.files [u] = .ok [f] := by decide +kernel
  have hother : f.uri ≠ u := by decide
  have hindexed : indexed =
      (((Service.start 150 500).noteCalls [.files [u]]).schedule [f] []).flush.2 := by
    change (Service.scheduleFetched _ (w.provider.files [u]) []).flush.2 = _
    rw [hfiles]
    rfl
  refine ⟨⟨hfiles, hother⟩, ?_, ?_⟩
  · rw [FileStore.get_of_not_cached rfl hfiles, if_neg hother]
  · change ((indexed.schedule [] [u]).flush.2).index.declarations = _
    rw [hindexed]
    decide +kernel

end SymbolAtlas
