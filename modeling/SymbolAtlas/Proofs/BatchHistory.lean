import Mathlib.Data.List.Induction
import SymbolAtlas.Proofs.DispatchOrder

/-!
# Batches and the arrivals they were merged from

A batch forgets how it came about: of each file it has one word, and that is the word of the last
arrival that mentions the file. An arrival mentions a file that it brings or deletes, and may do so
several times; it then means the deletion, and without one the text that it lists last.

## Main results

* `Arrival.word?_batchOf_of_last`: the last arrival that mentions a file decides.
* `Arrival.word?_batchOf_eq_none_iff`: no other arrival is needed for the batch to be silent.
* `batch_keeps_last_word`: both, read off the two parts of the batch and off their listings.
-/

namespace SymbolAtlas

namespace Arrival

/-- The arrival brings a text of the file or deletes it. -/
def Mentions (a : Arrival) (u : Uri) : Prop := u ∈ a.files.map (·.uri) ∨ u ∈ a.deleted

instance (a : Arrival) (u : Uri) : Decidable (a.Mentions u) :=
  inferInstanceAs (Decidable (_ ∨ _))

variable {arrivals : List Arrival} {u : Uri}

/-- An arrival says something of the files that it mentions. -/
theorem arrivalWord?_eq_none_iff {a : Arrival} :
    arrivalWord? a.files a.deleted u = none ↔ ¬a.Mentions u := by
  rw [arrivalWord?, Mentions]
  split
  next hdeleted => simp [hdeleted]
  next hkept => simp [hkept, latest?_eq_none_iff]

/-- Merging arrivals keeps new texts and deletions apart. -/
theorem sound_batchOf (arrivals : List Arrival) : (batchOf arrivals).Sound :=
  List.foldlRecOn arrivals _ Batch.Sound.empty fun _ h a _ => h.merge a.files a.deleted

/-- **A batch is silent** on the files that no arrival mentions. -/
theorem word?_batchOf_eq_none_iff :
    (batchOf arrivals).word? u = none ↔ ∀ a ∈ arrivals, ¬a.Mentions u := by
  induction arrivals using List.reverseRecOn with
  | nil => simp [batchOf]
  | append_singleton earlier a ih =>
      rw [batchOf_concat, Batch.word?_merge, Option.or_eq_none_iff, arrivalWord?_eq_none_iff, ih]
      simp [or_imp, forall_and, and_comm]

/-- **The last arrival that mentions a file decides** what the batch says of it. -/
theorem word?_batchOf_of_last {earlier later : List Arrival} {a : Arrival} (ha : a.Mentions u)
    (hlater : ∀ a' ∈ later, ¬a'.Mentions u) :
    (batchOf (earlier ++ a :: later)).word? u = arrivalWord? a.files a.deleted u := by
  induction later using List.reverseRecOn with
  | nil =>
      obtain ⟨word, hword⟩ := Option.ne_none_iff_exists'.mp
        (mt arrivalWord?_eq_none_iff.mp (not_not.mpr ha))
      rw [batchOf_concat, Batch.word?_merge, hword, Option.some_or]
  | append_singleton later a' ih =>
      have hsilent := arrivalWord?_eq_none_iff.mpr (hlater a' (by simp))
      have hsplit : earlier ++ a :: (later ++ [a']) = (earlier ++ a :: later) ++ [a'] := by simp
      rw [hsplit, batchOf_concat, Batch.word?_merge, hsilent, Option.none_or]
      exact ih fun a'' hmem => hlater a'' (List.mem_append_left _ hmem)

end Arrival

namespace Batch

variable {b : Batch} {u : Uri}

/-! ### The two parts of a batch -/

/-- The text that a batch holds of a file is its word, unless that is the deletion. -/
theorem Sound.file?_eq (h : b.Sound) (u : Uri) : b.file? u = (b.word? u).join := by
  rw [word?]
  split
  next hdeleted => rw [h.disjoint u hdeleted]; rfl
  next => cases b.file? u <;> rfl

/-- A batch deletes a file if that is its word. -/
theorem isDeleted_iff : b.isDeleted u = true ↔ b.word? u = some none := by
  rw [word?]
  split
  next hdeleted => simp [hdeleted]
  next hkept => simp [hkept]

/-- The files that the batch lists, those with new texts first. -/
def listed (b : Batch) : List Uri := b.fileList.map (·.uri) ++ b.deletedList

/-- The files with new texts are listed in the order of their identifiers. -/
theorem Sound.pairwise_fileList (h : b.Sound) : (b.fileList.map (·.uri)).Pairwise (· < ·) := by
  have hkeys : b.fileList.map (·.uri) = b.files.keys := h.keyed.map_uri_values
  rw [hkeys]
  exact b.files.pairwise_keys

/-- A batch lists the files that it has a word on. -/
theorem Sound.mem_listed_iff (h : b.Sound) : u ∈ b.listed ↔ b.word? u ≠ none := by
  have hkeys : b.fileList.map (·.uri) = b.files.keys := h.keyed.map_uri_values
  have hfile : b.files.contains u = (b.file? u).isSome := rfl
  rw [listed, List.mem_append, hkeys, UriMap.mem_keys_iff, mem_deletedList_iff, Ne,
    word?_eq_none_iff, hfile]
  cases b.file? u <;> simp

/-- No file is listed twice, in one part or in both. -/
theorem Sound.nodup_listed (h : b.Sound) : b.listed.Nodup := by
  refine List.nodup_append.mpr ⟨h.nodup_fileList, b.deleted.nodup_keys, ?_⟩
  intro u hnew v hdeleted heq
  subst heq
  obtain ⟨f, hf, rfl⟩ := List.mem_map.mp hnew
  have hfile : b.file? f.uri = some f := h.keyed.mem_values_iff.mp hf
  rw [h.disjoint _ (mem_deletedList_iff.mp hdeleted)] at hfile
  cases hfile

/-- An empty batch lists nothing. -/
theorem isEmpty_iff_listed : b.isEmpty = true ↔ b.listed = [] := by
  simp [isEmpty, listed, fileList, deletedList, UriMap.isEmpty, UriMap.values, UriMap.keys]

end Batch

/-- **A batch keeps the last word on each file.** Of arrivals that are merged one after the other
into an empty batch, each with any files and any deletions:
* what no arrival mentions has neither a new text nor a deletion in the batch;
* otherwise the last arrival that mentions it decides: the batch deletes it if that arrival does,
  and else has of it the last text that the arrival lists;
* so nothing has both;
* the two parts of the batch list, each in ascending order, the files that were mentioned and no
  others, each of them once, the new texts with what the batch has of them;
* the batch is empty if nothing was mentioned and only then. -/
theorem batch_keeps_last_word (arrivals : List Arrival) :
    let b := Arrival.batchOf arrivals
    (∀ u, (∀ a ∈ arrivals, ¬a.Mentions u) → b.file? u = none ∧ b.isDeleted u = false) ∧
      (∀ earlier a later u, arrivals = earlier ++ a :: later → a.Mentions u →
        (∀ a' ∈ later, ¬a'.Mentions u) →
        (b.isDeleted u = true ↔ u ∈ a.deleted) ∧
          b.file? u = (if u ∈ a.deleted then none else latest? a.files u) ∧
          ((b.file? u).isSome ↔ u ∉ a.deleted)) ∧
      (∀ u, ¬(b.isDeleted u = true ∧ (b.file? u).isSome)) ∧
      ((b.fileList.map (·.uri)).Pairwise (· < ·) ∧ b.deletedList.Pairwise (· < ·) ∧
        (∀ u, (b.fileList.map (·.uri) ++ b.deletedList).count u =
          if ∃ a ∈ arrivals, a.Mentions u then 1 else 0) ∧
        (∀ f, f ∈ b.fileList ↔ b.file? f.uri = some f) ∧
        ∀ u, u ∈ b.deletedList ↔ b.isDeleted u = true) ∧
      (b.isEmpty = true ↔ ∀ u, ∀ a ∈ arrivals, ¬a.Mentions u) := by
  intro b
  have hsound : b.Sound := Arrival.sound_batchOf arrivals
  have hmem (u : Uri) : u ∈ b.listed ↔ ∃ a ∈ arrivals, a.Mentions u := by
    rw [hsound.mem_listed_iff, Ne, Arrival.word?_batchOf_eq_none_iff]
    simp
  refine ⟨?_, ?_, ?_, ⟨hsound.pairwise_fileList, b.deleted.pairwise_keys, ?_, ?_, ?_⟩, ?_⟩
  · intro u hsilent
    exact Batch.word?_eq_none_iff.mp (Arrival.word?_batchOf_eq_none_iff.mpr hsilent)
  · intro earlier a later u hsplit ha hlater
    have hword : b.word? u = arrivalWord? a.files a.deleted u := by
      simp only [b, hsplit]
      exact Arrival.word?_batchOf_of_last ha hlater
    rw [Batch.isDeleted_iff, hsound.file?_eq, hword, arrivalWord?]
    split
    next hdeleted => simp [hdeleted]
    next hkept =>
      have hlisted : u ∈ a.files.map (·.uri) := ha.resolve_right hkept
      obtain ⟨f, hf⟩ := Option.ne_none_iff_exists'.mp
        (mt latest?_eq_none_iff.mp (not_not.mpr hlisted))
      simp [hkept, hf]
  · rintro u ⟨hdeleted, hnew⟩
    rw [hsound.disjoint u hdeleted] at hnew
    cases hnew
  · intro u
    have hcount : b.listed.count u = if u ∈ b.listed then 1 else 0 := hsound.nodup_listed.count
    simp only [hmem u] at hcount
    exact hcount
  · intro f
    exact hsound.keyed.mem_values_iff
  · intro u
    exact Batch.mem_deletedList_iff
  · rw [Batch.isEmpty_iff_listed, List.eq_nil_iff_forall_not_mem]
    refine forall_congr' fun u => ?_
    rw [hmem u]
    simp

/-- A file is deleted, brought twice and not mentioned again; another one is brought and then both
brought and deleted; a third one is never mentioned. -/
theorem batch_keeps_last_word_overlapping :
    let a : Uri := ⟨"file:///a"⟩
    let b : Uri := ⟨"file:///b"⟩
    let c : Uri := ⟨"file:///c"⟩
    let first : Arrival := ⟨[⟨a, "a", "class Foo"⟩], [a]⟩
    let second : Arrival :=
      ⟨[⟨b, "b", "class Bar"⟩, ⟨a, "a", "trait Foo"⟩, ⟨a, "a", "val foo"⟩], []⟩
    let third : Arrival := ⟨[⟨b, "b", "trait Bar"⟩], [b]⟩
    let batch := Arrival.batchOf [first, second, third]
    (second.Mentions a ∧ ¬third.Mentions a ∧ third.Mentions b ∧
        ∀ x ∈ [first, second, third], ¬x.Mentions c) ∧
      batch.file? a = some ⟨a, "a", "val foo"⟩ ∧ batch.isDeleted b = true ∧
      (batch.file? c = none ∧ batch.isDeleted c = false) ∧ batch.isEmpty = false := by
  intro a b c first second third batch
  have hthird : ∀ x ∈ [third], ¬x.Mentions a := by decide
  have hsilent : ∀ x ∈ [first, second, third], ¬x.Mentions c := by decide
  obtain ⟨hnone, hlast, -, -, hempty⟩ := batch_keeps_last_word [first, second, third]
  obtain ⟨-, hfile, -⟩ := hlast [first] second [third] a rfl (by decide) hthird
  obtain ⟨hdeleted, -, -⟩ := hlast [first, second] third [] b rfl (by decide) (by simp)
  refine ⟨⟨by decide, by decide, by decide, hsilent⟩, hfile, hdeleted.mpr (by decide),
    hnone c hsilent, ?_⟩
  exact Bool.eq_false_iff.mpr fun h => hempty.mp h a first (by simp) (by decide)

end SymbolAtlas
