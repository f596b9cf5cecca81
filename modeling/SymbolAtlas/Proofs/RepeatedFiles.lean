import Mathlib.Data.List.Nodup
import SymbolAtlas.Proofs.BatchHistory
import SymbolAtlas.Proofs.Pending
import SymbolAtlas.Proofs.ShortTexts

/-!
# Listings that repeat files

Indexing the workspace files what each listed file declares, so a file that is listed twice has
everything that it declares filed twice. What waits is folded in before: a file that waits is taken
from the batch, where it is once, and drops out of the listing, however often it is listed there.

## Main results

* `count_places`: a place is declared as often as its file is listed.
* `Service.nodup_places_indexAll_iff`: when the index holds no two declarations at one place.
-/

namespace SymbolAtlas

/-! ### Places in a listing -/

/-- Where a file declares something depends on its identifier and its text. -/
theorem FileEntry.map_place_declarations {f g : FileEntry} (huri : f.uri = g.uri)
    (hcontents : f.contents = g.contents) :
    f.declarations.map (·.place) = g.declarations.map (·.place) := by
  simp only [declarations, declarationsOf, lines, List.map_flatMap, List.map_map, hcontents]
  refine List.flatMap_congr fun k _ => List.flatMap_congr fun l _ => ?_
  refine List.map_congr_left fun pick _ => ?_
  exact congrArg (·, _) huri

/-- A file declares something at each place once. -/
theorem FileEntry.nodup_places (f : FileEntry) : (f.declarations.map (·.place)).Nodup := by
  have hone : ([f].map (·.uri)).Nodup := List.nodup_singleton f.uri
  have hnodup := nodup_places_declarationsIn hone
  rwa [declarationsIn, List.flatMap_singleton] at hnodup

/-- **A place is declared as often as its file is listed**, if the file is listed with one text. -/
theorem count_places {files : List FileEntry} {f : FileEntry}
    (hsame : ∀ g ∈ files, g.uri = f.uri → g.contents = f.contents) {place : Uri × Position}
    (hplace : place ∈ f.declarations.map (·.place)) :
    ((declarationsIn files).map (·.place)).count place = (files.map (·.uri)).count f.uri := by
  induction files with
  | nil => rfl
  | cons g files ih =>
      obtain ⟨hg, hfiles⟩ := List.forall_mem_cons.mp hsame
      have hone : (g.declarations.map (·.place)).count place = if g.uri = f.uri then 1 else 0 := by
        split
        next huri =>
          rw [FileEntry.map_place_declarations huri (hg huri)]
          exact List.count_eq_one_of_mem f.nodup_places hplace
        next huri =>
          refine List.count_eq_zero.mpr fun hmem => huri ?_
          obtain ⟨d, hd, rfl⟩ := List.mem_map.mp hplace
          obtain ⟨e, he, heq⟩ := List.mem_map.mp hmem
          rw [← FileEntry.uri_of_mem_declarations hd, ← FileEntry.uri_of_mem_declarations he]
          exact congrArg Prod.fst heq
      rw [declarationsIn, List.flatMap_cons, List.map_append, List.count_append, hone,
        ← declarationsIn, ih hfiles, List.map_cons, List.count_cons, Nat.add_comm]
      simp

/-- Declarations of a listing stand at different places if every file that declares something is
listed once, and only then. -/
theorem nodup_places_iff {files : List FileEntry}
    (hsame : ∀ f ∈ files, ∀ g ∈ files, f.uri = g.uri → f.contents = g.contents) :
    ((declarationsIn files).map (·.place)).Nodup ↔
      ∀ f ∈ files, f.declarations ≠ [] → (files.map (·.uri)).count f.uri = 1 := by
  constructor
  · intro hnodup f hf hne
    obtain ⟨d, hd⟩ := List.exists_mem_of_ne_nil _ hne
    rw [← count_places (fun g hg => hsame g hg f hf) (List.mem_map_of_mem hd)]
    refine List.count_eq_one_of_mem hnodup (List.mem_map_of_mem ?_)
    exact List.mem_flatMap.mpr ⟨f, hf, hd⟩
  · intro hone
    refine List.nodup_iff_count_le_one.mpr fun place => ?_
    by_cases hplace : place ∈ (declarationsIn files).map (·.place)
    · obtain ⟨d, hd, rfl⟩ := List.mem_map.mp hplace
      obtain ⟨f, hf, hd⟩ := List.mem_flatMap.mp hd
      rw [count_places (fun g hg => hsame g hg f hf) (List.mem_map_of_mem hd),
        hone f hf (List.ne_nil_of_mem hd)]
    · rw [List.count_eq_zero.mpr hplace]
      exact Nat.zero_le 1

/-! ### What waits -/

namespace Batch

variable {b : Batch} {files : List FileEntry} {u : Uri} {f : FileEntry}

/-- A listed file stays if the batch does not mention it, and the new texts are added. -/
theorem mem_folded_iff : f ∈ b.folded files ↔
    (f ∈ files ∧ b.word? f.uri = none) ∨ f ∈ b.fileList := by
  rw [folded, List.mem_append, List.mem_filter, word?_eq_none_iff]
  simp [and_comm]

/-- A file that the batch does not mention is listed as often as before. -/
theorem Sound.count_folded (h : b.Sound) (hword : b.word? u = none) :
    ((b.folded files).map (·.uri)).count u = (files.map (·.uri)).count u := by
  have hnew : u ∉ b.fileList.map (·.uri) :=
    fun hu => h.mem_listed_iff.mp (List.mem_append_left _ hu) hword
  obtain ⟨hfile, hdeleted⟩ := word?_eq_none_iff.mp hword
  rw [folded, List.map_append, List.count_append, List.count_eq_zero.mpr hnew, Nat.add_zero,
    List.count, List.countP_map, List.countP_filter, List.countP_map]
  refine List.countP_congr fun g _ => ?_
  simp only [Function.comp_apply, Bool.and_eq_true, beq_iff_eq, and_iff_left_iff_imp]
  rintro rfl
  simp [hfile, hdeleted]

/-- A new text is listed once. -/
theorem Sound.count_folded_of_mem (h : b.Sound) (hf : f ∈ b.fileList) :
    ((b.folded files).map (·.uri)).count f.uri = 1 := by
  have hmem : f.uri ∈ b.fileList.map (·.uri) := List.mem_map_of_mem hf
  have hword : b.word? f.uri ≠ none := h.mem_listed_iff.mp (List.mem_append_left _ hmem)
  have hold : f.uri ∉ (files.filter fun g =>
      !b.isDeleted g.uri && (b.file? g.uri).isNone).map (·.uri) := by
    intro hkept
    obtain ⟨g, hg, huri⟩ := List.mem_map.mp hkept
    refine hword (word?_eq_none_iff.mpr ?_)
    rw [← huri]
    simpa [and_comm] using (List.mem_filter.mp hg).2
  rw [folded, List.map_append, List.count_append, List.count_eq_zero.mpr hold, Nat.zero_add]
  exact List.count_eq_one_of_mem h.nodup_fileList hmem

end Batch

namespace Service

variable {s : Service} {p : Provider} {files : List FileEntry}

/-- The index of the workspace is that of the listing with what waits folded in. -/
theorem declarations_indexAll (hfiles : p.allFiles = .ok files) :
    (s.indexAll p).2.index.declarations.Perm (declarationsIn (s.pending.folded files)) := by
  have hindex : (s.indexAll p).2.index = .ofFiles (s.pending.folded files) := by
    simp only [indexAll, hfiles, ← getD_waiting]
    rfl
  rw [hindex]
  exact (SymbolIndex.sorted_perm _).trans (SymbolIndex.drained_ofDeclarations _)

/-- What is indexed of short texts is located where it stands. -/
theorem location_eq_of_mem_indexAll (hfiles : p.allFiles = .ok files)
    (hshort : ∀ f ∈ files ++ s.pending.fileList, f.Short) {d : Declaration}
    (hd : d ∈ (s.indexAll p).2.index.declarations) : d.location = d.position := by
  refine location_eq_of_mem_declarationsIn (fun f hf => hshort f (List.mem_append.mpr ?_))
    ((declarations_indexAll hfiles).mem_iff.mp hd)
  exact (Batch.mem_folded_iff.mp hf).imp_left And.left

/-- **Indexing the workspace** leaves no two declarations at one place if every file that does not
wait and declares something is listed once, and only then. -/
theorem nodup_places_indexAll_iff (hs : s.pending.Sound) (hfiles : p.allFiles = .ok files)
    (hsame : ∀ f ∈ files, ∀ g ∈ files, f.uri = g.uri → f.contents = g.contents) :
    ((s.indexAll p).2.index.declarations.map (·.place)).Nodup ↔
      ∀ f ∈ files, s.pending.word? f.uri = none → f.declarations ≠ [] →
        (files.map (·.uri)).count f.uri = 1 := by
  let listing := s.pending.folded files
  have hword {f : FileEntry} (hf : f ∈ s.pending.fileList) : s.pending.word? f.uri ≠ none :=
    hs.mem_listed_iff.mp (List.mem_append_left _ (List.mem_map_of_mem hf))
  have hfolded : ∀ f ∈ listing, ∀ g ∈ listing, f.uri = g.uri → f.contents = g.contents := by
    intro f hf g hg huri
    rcases Batch.mem_folded_iff.mp hf with ⟨hf, hfword⟩ | hf
    · rcases Batch.mem_folded_iff.mp hg with ⟨hg, -⟩ | hg
      · exact hsame f hf g hg huri
      · exact absurd (huri ▸ hfword) (hword hg)
    · rcases Batch.mem_folded_iff.mp hg with ⟨-, hgword⟩ | hg
      · exact absurd (huri ▸ hgword) (hword hf)
      · rw [List.inj_on_of_nodup_map hs.nodup_fileList hf hg huri]
  rw [((declarations_indexAll hfiles).map _).nodup_iff, nodup_places_iff hfolded]
  constructor
  · intro hone f hf hnone hne
    rw [← hs.count_folded hnone]
    exact hone f (Batch.mem_folded_iff.mpr (.inl ⟨hf, hnone⟩)) hne
  · intro hone f hf hne
    rcases Batch.mem_folded_iff.mp hf with ⟨hf, hnone⟩ | hnew
    · exact (hs.count_folded hnone).trans (hone f hf hnone hne)
    · exact hs.count_folded_of_mem hnew

end Service

end SymbolAtlas
