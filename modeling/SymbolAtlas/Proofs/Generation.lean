import SymbolAtlas.Index
import SymbolAtlas.Proofs.Occurrence
import SymbolAtlas.Uri.Map

/-!
# One generation of the index

Every change of the index builds its buckets and its snapshot anew from one list of declarations.
This module says what the observers of an index show of that list, and that they show nothing of its
order: the order of the index compares files, columns and lines, and declarations that agree in all
of these, in their locations and their positions, are the same as long as no two of the list share
their place.

## Main results

* `SymbolIndex.sorted_eq_of_perm`: sorting forgets the order if all places differ.
* `SymbolIndex.lookup_ofDeclarations`: a look-up shows the sorted declarations of its key.
* `SymbolIndex.declarations_ofDeclarations`: draining the buckets loses and repeats nothing.
* `SymbolIndex.ofFiles_eq_of_perm`: the index of a list of files with different identifiers does
  not depend on the order of the list.
-/

namespace SymbolAtlas

/-! ### The order of the index -/

namespace Declaration

/-- Where a declaration stands: its file and its position in it. -/
def place (d : Declaration) : Uri × Position := (d.uri, d.position)

/-- The order of the index, spelled out: by file, then by the column, then by the line of the
location, and at one location by the column, then by the line of the position. -/
theorem indexLE_iff {a b : Declaration} :
    a.indexLE b = true ↔ a.uri < b.uri ∨ (a.uri = b.uri ∧
      (a.location.character < b.location.character ∨
        (a.location.character = b.location.character ∧ (a.location.line < b.location.line ∨
          (a.location.line = b.location.line ∧ (a.position.character < b.position.character ∨
            (a.position.character = b.position.character ∧
              a.position.line ≤ b.position.line))))))) := by
  rw [indexLE]
  by_cases huri : a.uri = b.uri
  · by_cases hcharacter : a.location.character = b.location.character
    · by_cases hline : a.location.line = b.location.line
      · by_cases hcolumn : a.position.character = b.position.character
        · simp [huri, hcharacter, hline, hcolumn, Uri.lt_irrefl]
        · simp [huri, hcharacter, hline, hcolumn, Uri.lt_irrefl]
      · simp [huri, hcharacter, hline, Uri.lt_irrefl]
    · simp [huri, hcharacter, Uri.lt_irrefl]
  · simp [huri]

/-- The order of the index is by file, then by the column, then by the line of the location. -/
theorem location_le_of_indexLE {a b : Declaration} (h : a.indexLE b = true) :
    a.uri < b.uri ∨ (a.uri = b.uri ∧ (a.location.character < b.location.character ∨
      (a.location.character = b.location.character ∧ a.location.line ≤ b.location.line))) := by
  refine (indexLE_iff.mp h).imp_right fun hsame => ⟨hsame.1, ?_⟩
  omega

theorem indexLE_total (a b : Declaration) : (a.indexLE b || b.indexLE a) = true := by
  rw [Bool.or_eq_true, indexLE_iff, indexLE_iff]
  by_cases hab : a.uri < b.uri
  · exact .inl (.inl hab)
  by_cases hba : b.uri < a.uri
  · exact .inr (.inl hba)
  have huri := Uri.eq_of_not_lt hab hba
  simp only [huri, true_and]
  omega

theorem indexLE_trans (a b c : Declaration) (hab : a.indexLE b = true) (hbc : b.indexLE c = true) :
    a.indexLE c = true := by
  rw [indexLE_iff] at hab hbc ⊢
  rcases hab with hab | ⟨hab, hab'⟩
  · rcases hbc with hbc | ⟨hbc, -⟩
    · exact .inl (Uri.lt_trans hab hbc)
    · exact .inl (hbc ▸ hab)
  · rcases hbc with hbc | ⟨hbc, hbc'⟩
    · exact .inl (hab ▸ hbc)
    · exact .inr ⟨hab.trans hbc, by omega⟩

/-- Declarations that come before each other stand at the same place. -/
theorem place_eq_of_indexLE {a b : Declaration} (hab : a.indexLE b = true)
    (hba : b.indexLE a = true) : a.place = b.place := by
  rw [indexLE_iff] at hab hba
  rcases hab with hab | ⟨hab, hab'⟩
  · rcases hba with hba | ⟨hba, -⟩
    · exact absurd (Uri.lt_trans hab hba) (Uri.lt_irrefl _)
    · exact absurd (hba ▸ hab) (Uri.lt_irrefl _)
  · rcases hba with hba | ⟨-, hba'⟩
    · exact absurd (hab ▸ hba) (Uri.lt_irrefl _)
    · have hcharacter : a.position.character = b.position.character := by omega
      have hline : a.position.line = b.position.line := by omega
      have hposition : a.position = b.position := by
        cases ha : a.position
        cases hb : b.position
        simp_all
      rw [place, place, hab, hposition]

end Declaration

namespace SymbolIndex

/-! ### Sorting -/

theorem sorted_perm (ds : List Declaration) : (sorted ds).Perm ds :=
  List.mergeSort_perm ds _

/-- Sorted declarations stand in the order of the index. -/
theorem pairwise_sorted (ds : List Declaration) :
    (sorted ds).Pairwise fun a b => a.indexLE b = true :=
  List.pairwise_mergeSort Declaration.indexLE_trans Declaration.indexLE_total ds

/-- Sorted declarations stay as they are. -/
theorem sorted_eq_self {ds : List Declaration} (h : ds.Pairwise fun a b => a.indexLE b = true) :
    sorted ds = ds :=
  List.mergeSort_of_pairwise h

/-- There is one way to list declarations at different places in the order of the index. -/
theorem eq_sorted_of_perm {ds es : List Declaration} (hperm : ds.Perm es)
    (hplaces : (es.map (·.place)).Nodup) (horder : ds.Pairwise fun a b => a.indexLE b = true) :
    ds = sorted es := by
  refine (hperm.trans (sorted_perm es).symm).eq_of_pairwise ?_ horder (pairwise_sorted es)
  intro a b ha hb hab hba
  have ha' : a ∈ es := hperm.mem_iff.mp ha
  have hb' : b ∈ es := (sorted_perm es).mem_iff.mp hb
  exact List.inj_on_of_nodup_map hplaces ha' hb' (Declaration.place_eq_of_indexLE hab hba)

/-- **Sorting forgets the order** of declarations at different places. -/
theorem sorted_eq_of_perm {ds es : List Declaration} (hperm : ds.Perm es)
    (hplaces : (ds.map (·.place)).Nodup) : sorted ds = sorted es :=
  eq_sorted_of_perm ((sorted_perm ds).trans hperm) ((hperm.map _).nodup_iff.mp hplaces)
    (pairwise_sorted ds)

/-- Leaving declarations out before sorting or after it is the same. -/
theorem filter_sorted {ds : List Declaration} (hplaces : (ds.map (·.place)).Nodup)
    (p : Declaration → Bool) : (sorted ds).filter p = sorted (ds.filter p) :=
  eq_sorted_of_perm ((sorted_perm ds).filter p) (hplaces.sublist (List.filter_sublist.map _))
    ((pairwise_sorted ds).filter p)

/-! ### Buckets -/

/-- The declarations filed under a key of a list of buckets. -/
def filed (buckets : List (String × List Declaration)) (key : String) : List Declaration :=
  ((buckets.find? fun b => b.1 == key).map (·.2)).getD []

/-- Filing a declaration puts it at the end of its bucket and leaves the others alone. -/
theorem filed_fileUnder (d : Declaration) (buckets : List (String × List Declaration))
    (key : String) :
    filed (fileUnder d buckets) key =
      if d.key = key then filed buckets key ++ [d] else filed buckets key := by
  induction buckets with
  | nil => by_cases hkey : d.key = key <;> simp [fileUnder, filed, hkey]
  | cons b rest ih =>
      obtain ⟨k, bucket⟩ := b
      rw [fileUnder]
      by_cases hk : k = d.key
      · rw [if_pos hk]
        by_cases hkey : d.key = key <;> simp [filed, hk, hkey]
      · rw [if_neg hk]
        by_cases hhere : k = key
        · have hkey : ¬d.key = key := fun h => hk (hhere.trans h.symm)
          simp [filed, hhere, hkey]
        · simpa [filed, hhere] using ih

/-- Filing a list puts the declarations of a key at the end of its bucket, in their order. -/
theorem filed_foldl_fileUnder (ds : List Declaration) (buckets : List (String × List Declaration))
    (key : String) :
    filed (ds.foldl (fun buckets d => fileUnder d buckets) buckets) key =
      filed buckets key ++ ds.filter fun d => d.key == key := by
  induction ds generalizing buckets with
  | nil => simp
  | cons d ds ih =>
      rw [List.foldl_cons, ih, filed_fileUnder]
      by_cases hkey : d.key = key <;> simp [hkey]

/-- Filing a declaration adds it to the buckets and nothing else. -/
theorem fileUnder_flatMap_perm (d : Declaration) (buckets : List (String × List Declaration)) :
    ((fileUnder d buckets).flatMap (·.2)).Perm (d :: buckets.flatMap (·.2)) := by
  induction buckets with
  | nil => simp [fileUnder]
  | cons b rest ih =>
      obtain ⟨k, bucket⟩ := b
      rw [fileUnder]
      split
      · simp only [List.flatMap_cons, List.append_assoc, List.singleton_append]
        exact List.perm_middle
      · simp only [List.flatMap_cons]
        exact (ih.append_left bucket).trans List.perm_middle

/-- Buckets hold what was filed and nothing else. -/
theorem foldl_fileUnder_flatMap_perm (ds : List Declaration)
    (buckets : List (String × List Declaration)) :
    ((ds.foldl (fun buckets d => fileUnder d buckets) buckets).flatMap (·.2)).Perm
      (ds ++ buckets.flatMap (·.2)) := by
  induction ds generalizing buckets with
  | nil => exact .refl _
  | cons d ds ih =>
      rw [List.foldl_cons]
      refine (ih _).trans ?_
      refine ((fileUnder_flatMap_perm d buckets).append_left ds).trans ?_
      exact List.perm_middle

/-! ### What an index shows -/

/-- A look-up shows the sorted declarations of its key. -/
theorem lookup_ofDeclarations (ds : List Declaration) (key : String) :
    (ofDeclarations ds).lookup key = (sorted ds).filter fun d => d.key == key := by
  have hfiled := filed_foldl_fileUnder (sorted ds) [] key
  exact hfiled

/-- The buckets hold the declarations that the index was made from. -/
theorem drained_ofDeclarations (ds : List Declaration) :
    (ofDeclarations ds).drained.Perm ds := by
  have hperm := foldl_fileUnder_flatMap_perm (sorted ds) []
  rw [List.flatMap_nil, List.append_nil] at hperm
  exact hperm.trans (sorted_perm ds)

/-- The declarations of an index are those it was made from, sorted. -/
theorem declarations_ofDeclarations {ds : List Declaration}
    (hplaces : (ds.map (·.place)).Nodup) : (ofDeclarations ds).declarations = sorted ds := by
  have hperm := drained_ofDeclarations ds
  exact sorted_eq_of_perm hperm ((hperm.map _).nodup_iff.mpr hplaces)

/-- The index does not depend on the order of declarations at different places. -/
theorem ofDeclarations_eq_of_perm {ds es : List Declaration} (hperm : ds.Perm es)
    (hplaces : (ds.map (·.place)).Nodup) : ofDeclarations ds = ofDeclarations es := by
  simp only [ofDeclarations]
  rw [sorted_eq_of_perm hperm hplaces]

end SymbolIndex

/-! ### Indexes of files -/

/-- Files with different identifiers declare everything at places of its own. -/
theorem nodup_places_declarationsIn {files : List FileEntry}
    (hnodup : (files.map (·.uri)).Nodup) : ((declarationsIn files).map (·.place)).Nodup := by
  rw [declarationsIn, List.map_flatMap, List.nodup_flatMap]
  constructor
  · intro f _
    refine List.pairwise_map.mpr ((List.pairwise_map.mp f.nodup_positions).imp ?_)
    intro a b hne heq
    exact hne (congrArg Prod.snd heq)
  · refine (List.pairwise_map.mp hnodup).imp ?_
    intro f g hne place hf hg
    obtain ⟨a, ha, rfl⟩ := List.mem_map.mp hf
    obtain ⟨b, hb, heq⟩ := List.mem_map.mp hg
    have huri : b.uri = a.uri := congrArg Prod.fst heq
    rw [FileEntry.uri_of_mem_declarations ha, FileEntry.uri_of_mem_declarations hb] at huri
    exact hne huri.symm

/-- Dropping the declarations of some files is dropping the files. -/
theorem filter_declarationsIn (files : List FileEntry) (p : Uri → Bool) :
    (declarationsIn files).filter (fun d => p d.uri) =
      declarationsIn (files.filter fun f => p f.uri) := by
  have hone (f : FileEntry) : f.declarations.filter (fun d => p d.uri) =
      if p f.uri then f.declarations else [] := by
    split
    next hp =>
      refine List.filter_eq_self.mpr fun d hd => ?_
      rw [FileEntry.uri_of_mem_declarations hd, hp]
    next hp =>
      refine List.filter_eq_nil_iff.mpr fun d hd => ?_
      rwa [FileEntry.uri_of_mem_declarations hd]
  induction files with
  | nil => rfl
  | cons f files ih =>
      simp only [declarationsIn] at ih ⊢
      rw [List.flatMap_cons, List.filter_append, ih, hone, List.filter_cons]
      split
      · rw [List.flatMap_cons]
      · rw [List.nil_append]

namespace SymbolIndex

/-- **The index of files does not depend on their order**, if their identifiers differ. -/
theorem ofFiles_eq_of_perm {files files' : List FileEntry} (hperm : files.Perm files')
    (hnodup : (files.map (·.uri)).Nodup) : ofFiles files = ofFiles files' :=
  ofDeclarations_eq_of_perm (hperm.flatMap_right _) (nodup_places_declarationsIn hnodup)

/-- The declarations of the index of files are those of the files, sorted. -/
theorem declarations_ofFiles {files : List FileEntry} (hnodup : (files.map (·.uri)).Nodup) :
    (ofFiles files).declarations = sorted (declarationsIn files) :=
  declarations_ofDeclarations (nodup_places_declarationsIn hnodup)

end SymbolIndex

end SymbolAtlas
