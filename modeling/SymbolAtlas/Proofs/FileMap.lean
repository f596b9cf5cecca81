import Mathlib.Data.List.Nodup
import SymbolAtlas.FileEntry
import SymbolAtlas.Uri.Map

/-!
# Maps of files

The cache, the waiting batch and the files behind an index are maps from identifiers to files. This
module gives them extensionality and says, through look-ups, what entering a list of files and
erasing a list of identifiers do. Where a list names a file twice the last entry counts, and
`latest?` is that entry.

## Main results

* `UriMap.ext_get?`: maps with the same look-ups are equal.
* `UriMap.get?_eraseAll`, `UriMap.get?_putAll`: the two bulk operations through look-ups.
* `UriMap.Keyed.nodup_uris`: a map that files everything under its own identifier lists no
  identifier twice.
-/

namespace SymbolAtlas

/-! ### The last entry of a file -/

/-- The last of the listed files with the identifier `u`. -/
def latest? (files : List FileEntry) (u : Uri) : Option FileEntry :=
  files.reverse.find? fun f => f.uri == u

/-- A later entry wins over the first one. -/
theorem latest?_cons (f : FileEntry) (files : List FileEntry) (u : Uri) :
    latest? (f :: files) u = (latest? files u).or (if f.uri = u then some f else none) := by
  simp only [latest?]
  rw [List.reverse_cons, List.find?_append]
  by_cases h : f.uri = u <;> simp [h]

/-- The last entry of a file is listed, under the identifier that was asked for. -/
theorem mem_of_latest? {files : List FileEntry} {u : Uri} {f : FileEntry}
    (h : latest? files u = some f) : f ∈ files ∧ f.uri = u :=
  ⟨List.mem_reverse.mp (List.mem_of_find?_eq_some h), by simpa using List.find?_some h⟩

/-- There is no last entry exactly if there is no entry. -/
theorem latest?_eq_none_iff {files : List FileEntry} {u : Uri} :
    latest? files u = none ↔ u ∉ files.map (·.uri) := by
  simp [latest?]

/-- In a list without repeated identifiers every entry is the last one of its file. -/
theorem latest?_eq_some_iff {files : List FileEntry} (hnodup : (files.map (·.uri)).Nodup)
    {u : Uri} {f : FileEntry} : latest? files u = some f ↔ f ∈ files ∧ f.uri = u := by
  refine ⟨mem_of_latest?, ?_⟩
  rintro ⟨hmem, rfl⟩
  cases hlast : latest? files f.uri with
  | none => exact absurd (List.mem_map_of_mem hmem) (latest?_eq_none_iff.mp hlast)
  | some g =>
      obtain ⟨hg, huri⟩ := mem_of_latest? hlast
      rw [List.inj_on_of_nodup_map hnodup hg hmem huri]

/-- The last entry in a list that is continued: the continuation counts first. -/
theorem latest?_append (files files' : List FileEntry) (u : Uri) :
    latest? (files ++ files') u = (latest? files' u).or (latest? files u) := by
  simp only [latest?]
  rw [List.reverse_append, List.find?_append]

/-- Leaving out files by their identifiers keeps or loses all entries of a file. -/
theorem latest?_filter (files : List FileEntry) (p : Uri → Bool) (u : Uri) :
    latest? (files.filter fun f => p f.uri) u = if p u then latest? files u else none := by
  induction files with
  | nil => simp [latest?]
  | cons f files ih =>
      rw [List.filter_cons]
      by_cases hu : f.uri = u
      · cases hp : p u <;> simp [hu, hp, ih, latest?_cons]
      · cases hp : p f.uri <;> simp [hu, ih, latest?_cons]

namespace UriMap

variable {α : Type}

/-! ### Extensionality -/

/-- The listing repeats no entry. -/
theorem nodup_entries (m : UriMap α) : m.entries.Nodup :=
  m.ascending.imp fun hlt heq => Uri.ne_of_lt hlt (congrArg Prod.fst heq)

/-- Keys are listed in their order. -/
theorem pairwise_keys (m : UriMap α) : m.keys.Pairwise (· < ·) :=
  List.pairwise_map.mpr m.ascending

/-- The listing repeats no key. -/
theorem nodup_keys (m : UriMap α) : m.keys.Nodup :=
  m.pairwise_keys.imp Uri.ne_of_lt

/-- **Extensionality**: the ascending listing is determined by the look-ups. -/
theorem ext_get? {m m' : UriMap α} (h : ∀ u, m.get? u = m'.get? u) : m = m' := by
  have hperm : m.entries.Perm m'.entries := by
    refine (List.perm_ext_iff_of_nodup m.nodup_entries m'.nodup_entries).mpr ?_
    rintro ⟨u, a⟩
    rw [mem_entries_iff, mem_entries_iff, h]
  have heq : m.entries = m'.entries :=
    hperm.eq_of_pairwise
      (fun _ _ _ _ hab hba => absurd (Uri.lt_trans hab hba) (Uri.lt_irrefl _))
      m.ascending m'.ascending
  cases m
  cases m'
  cases heq
  rfl

/-- A key is listed exactly if there is a value at it. -/
theorem mem_keys_iff {m : UriMap α} {u : Uri} : u ∈ m.keys ↔ m.contains u = true := by
  simp only [keys, contains, List.mem_map, Option.isSome_iff_exists, ← mem_entries_iff]
  constructor
  · rintro ⟨⟨v, a⟩, hmem, rfl⟩
    exact ⟨a, hmem⟩
  · rintro ⟨a, hmem⟩
    exact ⟨(u, a), hmem, rfl⟩

/-- The listed values are the values that look-ups find. -/
theorem mem_values_iff {m : UriMap α} {a : α} : a ∈ m.values ↔ ∃ u, m.get? u = some a := by
  simp only [values, List.mem_map, ← mem_entries_iff]
  constructor
  · rintro ⟨⟨u, b⟩, hmem, rfl⟩
    exact ⟨u, hmem⟩
  · rintro ⟨u, hmem⟩
    exact ⟨(u, a), hmem, rfl⟩

/-! ### Entering and erasing lists -/

/-- The map without entries at any of the given keys. -/
def eraseAll (m : UriMap α) (us : List Uri) : UriMap α := us.foldl erase m

/-- The map with every listed file at its identifier, later entries in place of earlier ones. -/
def putAll (m : UriMap FileEntry) (files : List FileEntry) : UriMap FileEntry :=
  files.foldl (fun m f => m.insert f.uri f) m

/-- Erasing a list of keys empties these and leaves the others alone. -/
theorem get?_eraseAll (m : UriMap α) (us : List Uri) (u : Uri) :
    (m.eraseAll us).get? u = if u ∈ us then none else m.get? u := by
  induction us generalizing m with
  | nil => simp [eraseAll]
  | cons v us ih =>
      have hstep : m.eraseAll (v :: us) = (m.erase v).eraseAll us := rfl
      rw [hstep, ih, get?_erase]
      by_cases hmem : u ∈ us
      · simp [hmem]
      · simp [hmem, eq_comm]

/-- Entering a list of files decides the value at each of their identifiers by its last entry. -/
theorem get?_putAll (m : UriMap FileEntry) (files : List FileEntry) (u : Uri) :
    (m.putAll files).get? u = (latest? files u).or (m.get? u) := by
  induction files generalizing m with
  | nil => rfl
  | cons f files ih =>
      have hstep : m.putAll (f :: files) = (m.insert f.uri f).putAll files := rfl
      rw [hstep, ih, get?_insert, latest?_cons, Option.or_assoc]
      by_cases h : f.uri = u <;> simp [h]

/-! ### Files under their own identifiers -/

/-- Every file stands under its own identifier. -/
def Keyed (m : UriMap FileEntry) : Prop := ∀ u f, m.get? u = some f → f.uri = u

theorem keyed_empty : (empty : UriMap FileEntry).Keyed := by
  intro u f h
  simp at h

/-- Erasing keeps files under their own identifiers. -/
theorem Keyed.eraseAll {m : UriMap FileEntry} (h : m.Keyed) (us : List Uri) :
    (m.eraseAll us).Keyed := by
  intro u f hget
  rw [get?_eraseAll] at hget
  split at hget
  · simp at hget
  · exact h u f hget

/-- Entering files keeps files under their own identifiers. -/
theorem Keyed.putAll {m : UriMap FileEntry} (h : m.Keyed) (files : List FileEntry) :
    (m.putAll files).Keyed := by
  intro u f hget
  rw [get?_putAll, Option.or_eq_some_iff] at hget
  rcases hget with hlast | ⟨-, hold⟩
  · exact (mem_of_latest? hlast).2
  · exact h u f hold

/-- A file is listed exactly if a look-up of its own identifier finds it. -/
theorem Keyed.mem_values_iff {m : UriMap FileEntry} (h : m.Keyed) {f : FileEntry} :
    f ∈ m.values ↔ m.get? f.uri = some f := by
  rw [UriMap.mem_values_iff]
  refine ⟨?_, fun hget => ⟨f.uri, hget⟩⟩
  rintro ⟨u, hget⟩
  rwa [h u f hget]

/-- The identifiers of the listed files are the keys. -/
theorem Keyed.map_uri_values {m : UriMap FileEntry} (h : m.Keyed) :
    m.values.map (·.uri) = m.keys := by
  rw [values, keys, List.map_map]
  refine List.map_congr_left ?_
  rintro ⟨u, f⟩ hmem
  exact h u f ((mem_entries_iff m u f).mp hmem)

/-- No identifier is listed twice. -/
theorem Keyed.nodup_uris {m : UriMap FileEntry} (h : m.Keyed) :
    (m.values.map (·.uri)).Nodup := by
  rw [h.map_uri_values]
  exact m.nodup_keys

/-- The files of a map that files everything under its own identifier are those of the list it
was entered from, if that list repeats no identifier. -/
theorem values_putAll_empty_perm {files : List FileEntry} (hnodup : (files.map (·.uri)).Nodup) :
    ((empty : UriMap FileEntry).putAll files).values.Perm files := by
  have hkeyed := keyed_empty.putAll files
  refine (List.perm_ext_iff_of_nodup (.of_map _ hkeyed.nodup_uris) (.of_map _ hnodup)).mpr ?_
  intro f
  rw [hkeyed.mem_values_iff, get?_putAll, get?_empty, Option.or_none, latest?_eq_some_iff hnodup]
  simp

end UriMap

end SymbolAtlas
