import SymbolAtlas.Batch
import SymbolAtlas.Proofs.FileMap

/-!
# The last word of a batch

A batch keeps its new texts and its deletions in two maps, and each arrival writes to both. Read
together they say one thing of each file, its *word*: nothing, that it is deleted, or its new text.
This module reads arrivals and batches as words, and the effect of a batch on a map of files as an
overlay: the word where there is one, the old file elsewhere. Cutting a run of arrivals into batches
in another way then comes down to `Batch.Sound.overlay_merge`.

## Main results

* `Batch.word?_merge`: an arrival has the last word on the files that it mentions.
* `Batch.Sound.merge`: arrivals keep the two maps of a batch apart.
* `Batch.Sound.overlay_merge`: a merged batch has the effect of its parts, one after the other.
-/

namespace SymbolAtlas

/-- What an arrival says of a file: its deletions count after its files. -/
def arrivalWord? (files : List FileEntry) (deleted : List Uri) (u : Uri) :
    Option (Option FileEntry) :=
  if u ∈ deleted then some none else (latest? files u).map some

namespace Batch

/-! ### Words -/

/-- What the batch says of a file: nothing, that it is deleted, or its new text. -/
def word? (b : Batch) (u : Uri) : Option (Option FileEntry) :=
  if b.isDeleted u then some none else (b.file? u).map some

@[simp] theorem word?_empty (u : Uri) : empty.word? u = none := rfl

theorem file?_addFile (b : Batch) (f : FileEntry) (u : Uri) :
    (b.addFile f).file? u = if f.uri = u then some f else b.file? u :=
  UriMap.get?_insert b.files f.uri u f

theorem isDeleted_addFile (b : Batch) (f : FileEntry) (u : Uri) :
    (b.addFile f).isDeleted u = if f.uri = u then false else b.isDeleted u := by
  rw [isDeleted, addFile, UriMap.contains, UriMap.get?_erase]
  split <;> rfl

theorem file?_addDeletion (b : Batch) (v u : Uri) :
    (b.addDeletion v).file? u = if v = u then none else b.file? u :=
  UriMap.get?_erase b.files v u

theorem isDeleted_addDeletion (b : Batch) (v u : Uri) :
    (b.addDeletion v).isDeleted u = if v = u then true else b.isDeleted u := by
  rw [isDeleted, addDeletion, UriMap.contains, UriMap.get?_insert]
  split <;> rfl

/-- A new text is the last word on its file. -/
theorem word?_addFile (b : Batch) (f : FileEntry) (u : Uri) :
    (b.addFile f).word? u = if f.uri = u then some (some f) else b.word? u := by
  rw [word?, file?_addFile, isDeleted_addFile]
  split <;> rfl

/-- A deletion is the last word on its file. -/
theorem word?_addDeletion (b : Batch) (v u : Uri) :
    (b.addDeletion v).word? u = if v = u then some none else b.word? u := by
  rw [word?, file?_addDeletion, isDeleted_addDeletion]
  split <;> rfl

/-- The last of several new texts is the last word on its file. -/
theorem word?_foldl_addFile (files : List FileEntry) (b : Batch) (u : Uri) :
    (files.foldl addFile b).word? u = ((latest? files u).map some).or (b.word? u) := by
  induction files generalizing b with
  | nil => rfl
  | cons f files ih =>
      rw [List.foldl_cons, ih, word?_addFile, latest?_cons]
      cases latest? files u with
      | some g => rfl
      | none => by_cases h : f.uri = u <;> simp [h]

/-- Deletions are the last word on their files. -/
theorem word?_foldl_addDeletion (deleted : List Uri) (b : Batch) (u : Uri) :
    (deleted.foldl addDeletion b).word? u = if u ∈ deleted then some none else b.word? u := by
  induction deleted generalizing b with
  | nil => simp
  | cons v deleted ih =>
      rw [List.foldl_cons, ih, word?_addDeletion]
      by_cases hmem : u ∈ deleted
      · simp [hmem]
      · simp [hmem, eq_comm]

/-- **An arrival has the last word** on the files that it mentions, and none on the others. -/
theorem word?_merge (b : Batch) (files : List FileEntry) (deleted : List Uri) (u : Uri) :
    (b.merge files deleted).word? u = (arrivalWord? files deleted u).or (b.word? u) := by
  rw [merge, arrivalWord?]
  rw [word?_foldl_addDeletion, word?_foldl_addFile]
  split <;> rfl

/-- The batch of one arrival says what the arrival says. -/
theorem word?_of (files : List FileEntry) (deleted : List Uri) (u : Uri) :
    (of files deleted).word? u = arrivalWord? files deleted u := by
  rw [of, word?_merge, word?_empty, Option.or_none]

/-! ### Batches that arrivals build -/

/-- New texts stand under their own identifiers, and no file is both new and deleted. -/
structure Sound (b : Batch) : Prop where
  keyed : b.files.Keyed
  disjoint : ∀ u, b.isDeleted u = true → b.file? u = none

theorem Sound.empty : Batch.empty.Sound := ⟨UriMap.keyed_empty, fun _ h => by cases h⟩

theorem Sound.addFile {b : Batch} (h : b.Sound) (f : FileEntry) : (b.addFile f).Sound := by
  constructor
  · exact h.keyed.putAll [f]
  · intro u hdeleted
    rw [isDeleted_addFile] at hdeleted
    rw [file?_addFile]
    split at hdeleted
    · cases hdeleted
    next hne => rw [if_neg hne]; exact h.disjoint u hdeleted

theorem Sound.addDeletion {b : Batch} (h : b.Sound) (v : Uri) : (b.addDeletion v).Sound := by
  constructor
  · exact h.keyed.eraseAll [v]
  · intro u hdeleted
    rw [isDeleted_addDeletion] at hdeleted
    rw [file?_addDeletion]
    split
    · rfl
    next hne => rw [if_neg hne] at hdeleted; exact h.disjoint u hdeleted

/-- **Arrivals keep new texts and deletions apart.** -/
theorem Sound.merge {b : Batch} (h : b.Sound) (files : List FileEntry) (deleted : List Uri) :
    (b.merge files deleted).Sound := by
  rw [Batch.merge]
  refine List.foldlRecOn deleted _ (List.foldlRecOn files _ h ?_) ?_
  · exact fun b hb f _ => hb.addFile f
  · exact fun b hb u _ => hb.addDeletion u

theorem Sound.of (files : List FileEntry) (deleted : List Uri) : (Batch.of files deleted).Sound :=
  Sound.empty.merge files deleted

/-- The listed new texts have different identifiers. -/
theorem Sound.nodup_fileList {b : Batch} (h : b.Sound) : (b.fileList.map (·.uri)).Nodup :=
  h.keyed.nodup_uris

/-- The listed new texts, looked up. -/
theorem Sound.latest?_fileList {b : Batch} (h : b.Sound) (u : Uri) :
    latest? b.fileList u = b.file? u := by
  refine Option.ext fun f => ?_
  rw [latest?_eq_some_iff h.nodup_fileList]
  constructor
  · rintro ⟨hmem, rfl⟩
    exact h.keyed.mem_values_iff.mp hmem
  · intro hfile
    have huri := h.keyed u f hfile
    subst huri
    exact ⟨h.keyed.mem_values_iff.mpr hfile, rfl⟩

/-- The listed deletions. -/
theorem mem_deletedList_iff {b : Batch} {u : Uri} : u ∈ b.deletedList ↔ b.isDeleted u = true :=
  UriMap.mem_keys_iff

/-! ### The effect of a batch -/

/-- A map of files after the batch. -/
def overlay (b : Batch) (m : UriMap FileEntry) : UriMap FileEntry :=
  (m.eraseAll b.deletedList).putAll b.fileList

/-- After the batch its word counts where it has one, and the old file elsewhere. -/
theorem Sound.get?_overlay {b : Batch} (h : b.Sound) (m : UriMap FileEntry) (u : Uri) :
    (b.overlay m).get? u = (b.word? u).getD (m.get? u) := by
  rw [overlay, word?, UriMap.get?_putAll, h.latest?_fileList, UriMap.get?_eraseAll]
  by_cases hdeleted : b.isDeleted u = true
  · simp [mem_deletedList_iff, hdeleted, h.disjoint u hdeleted]
  · cases hfile : b.file? u <;> simp [mem_deletedList_iff, hdeleted]

/-- The effect is the same if the deletions come after the new texts. -/
theorem Sound.eraseAll_putAll {b : Batch} (h : b.Sound) (m : UriMap FileEntry) :
    (m.putAll b.fileList).eraseAll b.deletedList = b.overlay m := by
  refine UriMap.ext_get? fun u => ?_
  rw [h.get?_overlay, UriMap.get?_eraseAll, UriMap.get?_putAll, h.latest?_fileList,
    word?]
  by_cases hdeleted : b.isDeleted u = true
  · simp [mem_deletedList_iff, hdeleted]
  · cases hfile : b.file? u <;> simp [mem_deletedList_iff, hdeleted]

@[simp] theorem overlay_empty (m : UriMap FileEntry) : empty.overlay m = m := rfl

/-- **A merged batch has the effect of its parts**, one after the other. -/
theorem Sound.overlay_merge {b : Batch} (h : b.Sound) (files : List FileEntry)
    (deleted : List Uri) (m : UriMap FileEntry) :
    (b.merge files deleted).overlay m = (Batch.of files deleted).overlay (b.overlay m) := by
  refine UriMap.ext_get? fun u => ?_
  rw [(h.merge files deleted).get?_overlay, (Sound.of files deleted).get?_overlay, h.get?_overlay,
    word?_merge, word?_of]
  cases arrivalWord? files deleted u <;> rfl

/-! ### Folding a batch into a listing -/

/-- The batch says nothing of the file. -/
theorem word?_eq_none_iff {b : Batch} {u : Uri} :
    b.word? u = none ↔ b.file? u = none ∧ b.isDeleted u = false := by
  rw [word?]
  cases b.isDeleted u <;> simp

/-- A listing of files with the batch folded in: files that the batch mentions are left out, and its
new texts are added. -/
def folded (b : Batch) (files : List FileEntry) : List FileEntry :=
  files.filter (fun f => !b.isDeleted f.uri && (b.file? f.uri).isNone) ++ b.fileList

/-- The last entry of a file in such a listing. -/
theorem Sound.latest?_folded {b : Batch} (h : b.Sound) (files : List FileEntry) (u : Uri) :
    latest? (b.folded files) u = (b.word? u).getD (latest? files u) := by
  rw [folded, word?, latest?_append, h.latest?_fileList,
    latest?_filter files (fun v => !b.isDeleted v && (b.file? v).isNone)]
  cases hdeleted : b.isDeleted u with
  | true => simp [h.disjoint u hdeleted]
  | false => cases b.file? u <;> simp

/-- Folding a batch in keeps identifiers apart. -/
theorem Sound.nodup_folded {b : Batch} (h : b.Sound) {files : List FileEntry}
    (hnodup : (files.map (·.uri)).Nodup) : ((b.folded files).map (·.uri)).Nodup := by
  rw [folded, List.map_append]
  refine List.nodup_append.mpr ⟨?_, h.nodup_fileList, ?_⟩
  · exact hnodup.sublist (List.filter_sublist.map _)
  · intro u hu v hv heq
    subst heq
    obtain ⟨f, hf, rfl⟩ := List.mem_map.mp hu
    obtain ⟨g, hg, huri⟩ := List.mem_map.mp hv
    have hkept := (List.mem_filter.mp hf).2
    have hnew : b.file? g.uri = some g := h.keyed.mem_values_iff.mp hg
    rw [← huri, hnew] at hkept
    simp at hkept

/-- **Entering a folded listing** is entering the listing and then applying the batch. -/
theorem Sound.putAll_folded {b : Batch} (h : b.Sound) (files : List FileEntry)
    (m : UriMap FileEntry) :
    (m.eraseAll b.deletedList).putAll (b.folded files) = b.overlay (m.putAll files) := by
  refine UriMap.ext_get? fun u => ?_
  rw [h.get?_overlay, UriMap.get?_putAll, UriMap.get?_putAll, UriMap.get?_eraseAll,
    h.latest?_folded, word?]
  by_cases hdeleted : b.isDeleted u = true
  · simp [mem_deletedList_iff, hdeleted]
  · cases b.file? u <;> simp [mem_deletedList_iff, hdeleted]

end Batch

end SymbolAtlas
