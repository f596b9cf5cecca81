import Mathlib.Data.List.Induction
import SymbolAtlas.FileStore

/-!
# Marks and their history

A file that an editor has just changed is marked until a time, and every new mark drops the marks of
all files that have run out. What is left therefore depends on which files were marked in between,
but what it says of a file does not: a mark that is dropped has run out for good. At any time that
no mark lies after, a file counts as just changed exactly if its last mark has not run out.

## Main results

* `UriMap.get?_filter`: a filter through look-ups.
* `FileStore.isJustChanged_markJustChanged`: what one mark does, to its file and to the others.
* `FileStore.isJustChanged_markAll`: what a history of marks does.
* `last_mark_decides`: the marks that are left say what the history says.
-/

namespace SymbolAtlas

/-- A filter keeps the value at a key or loses it, as it would by itself. -/
theorem UriMap.get?_filter {α : Type} (m : UriMap α) (keep : Uri → α → Bool) (u : Uri) :
    (m.filter keep).get? u = (m.get? u).filter (keep u) := by
  refine Option.ext fun a => ?_
  rw [← mem_entries_iff, Option.filter_eq_some_iff, ← mem_entries_iff]
  exact List.mem_filter

/-- The time of the last mark of a file. -/
def lastMark? (marks : List (Uri × Nat)) (u : Uri) : Option Nat :=
  (marks.filter fun m => m.1 == u).getLast?.map (·.2)

theorem lastMark?_concat (marks : List (Uri × Nat)) (v : Uri) (t : Nat) (u : Uri) :
    lastMark? (marks ++ [(v, t)]) u = if v = u then some t else lastMark? marks u := by
  rw [lastMark?, List.filter_append]
  by_cases h : v = u <;> simp [h, lastMark?]

/-- A file has a last mark if it has been marked at all. -/
theorem lastMark?_eq_none_iff {marks : List (Uri × Nat)} {u : Uri} :
    lastMark? marks u = none ↔ ∀ m ∈ marks, m.1 ≠ u := by
  simp [lastMark?]

namespace FileStore

/-- The store after files were marked, each at its time. -/
def markAll (s : FileStore) (marks : List (Uri × Nat)) : FileStore :=
  marks.foldl (fun s m => s.markJustChanged m.1 m.2) s

theorem markAll_concat (s : FileStore) (marks : List (Uri × Nat)) (m : Uri × Nat) :
    s.markAll (marks ++ [m]) = (s.markAll marks).markJustChanged m.1 m.2 := by
  rw [markAll, List.foldl_append]
  rfl

theorem grace_markAll (s : FileStore) (marks : List (Uri × Nat)) :
    (s.markAll marks).grace = s.grace := by
  induction marks using List.reverseRecOn with
  | nil => rfl
  | append_singleton marks m ih => rw [markAll_concat, markJustChanged, ih]

/-- **One mark** sets what holds of its file, and what it drops of others has run out. -/
theorem isJustChanged_markJustChanged (s : FileStore) (v u : Uri) {t now : Nat} (h : t ≤ now) :
    (s.markJustChanged v t).isJustChanged u now =
      if v = u then decide (now < t + s.grace) else s.isJustChanged u now := by
  simp only [isJustChanged, markJustChanged, UriMap.get?_insert, UriMap.get?_filter]
  by_cases hv : v = u
  · rw [if_pos hv, if_pos hv]
  · rw [if_neg hv, if_neg hv]
    cases s.marks.get? u with
    | none => rfl
    | some expiry =>
        by_cases hkept : t < expiry
        · simp [Option.filter, hkept]
        · -- the mark that is dropped had run out at `t`, hence it has at `now`
          have hexpired : ¬now < expiry := by omega
          simp [Option.filter, hkept, hexpired]

/-- **A history of marks** sets what holds of the marked files and leaves the others alone. -/
theorem isJustChanged_markAll (s : FileStore) {marks : List (Uri × Nat)} {now : Nat}
    (hnow : ∀ m ∈ marks, m.2 ≤ now) (u : Uri) :
    (s.markAll marks).isJustChanged u now =
      match lastMark? marks u with
      | some t => decide (now < t + s.grace)
      | none => s.isJustChanged u now := by
  induction marks using List.reverseRecOn with
  | nil => rfl
  | append_singleton marks m ih =>
      obtain ⟨v, t⟩ := m
      have ht : t ≤ now := hnow (v, t) (by simp)
      rw [markAll_concat, isJustChanged_markJustChanged _ _ _ ht, grace_markAll, lastMark?_concat,
        ih fun m hm => hnow m (List.mem_append_left _ hm)]
      split <;> rfl

end FileStore

/-- **The last mark of a file decides.** For any grace period, any marks of any files in any order,
and a time `now` that none of them lies after:
* a file counts as just changed at `now` exactly if it has been marked and the grace period after
  its last mark has not passed, the end of the period not included;
* other files have no part in that: two histories with the same marks of a file say the same of it,
  and further marks of others change nothing of what any store says of it. -/
theorem last_mark_decides (grace : Nat) (marks : List (Uri × Nat)) (now : Nat)
    (hnow : ∀ m ∈ marks, m.2 ≤ now) (u : Uri) :
    let marked := (FileStore.empty grace).markAll marks
    (marked.isJustChanged u now = true ↔
        ∃ t, lastMark? marks u = some t ∧ now < t + grace) ∧
      (∀ marks' : List (Uri × Nat), (∀ m ∈ marks', m.2 ≤ now) →
        (marks'.filter fun m => m.1 == u) = (marks.filter fun m => m.1 == u) →
        ((FileStore.empty grace).markAll marks').isJustChanged u now =
          marked.isJustChanged u now) ∧
      ∀ (s : FileStore) (others : List (Uri × Nat)), (∀ m ∈ others, m.2 ≤ now ∧ m.1 ≠ u) →
        (s.markAll others).isJustChanged u now = s.isJustChanged u now := by
  intro marked
  have hmarked := (FileStore.empty grace).isJustChanged_markAll hnow u
  refine ⟨?_, ?_, ?_⟩
  · rw [hmarked]
    cases lastMark? marks u with
    | none => exact ⟨nofun, nofun⟩
    | some t =>
        change decide (now < t + grace) = true ↔ _
        simp
  · intro marks' hnow' hsame
    have hlast : lastMark? marks' u = lastMark? marks u := by rw [lastMark?, lastMark?, hsame]
    rw [(FileStore.empty grace).isJustChanged_markAll hnow' u, hlast, hmarked]
  · intro s others hothers
    have hnone : lastMark? others u = none :=
      lastMark?_eq_none_iff.mpr fun m hm => (hothers m hm).2
    rw [s.isJustChanged_markAll (fun m hm => (hothers m hm).1) u, hnone]

/-- A file is marked, runs out, is dropped by the mark of another one, is marked again and asked
about at the last moment of its grace period and at its end. -/
theorem last_mark_decides_again :
    let a : Uri := ⟨"file:///a"⟩
    let b : Uri := ⟨"file:///b"⟩
    let marks := [(a, 0), (b, 700), (a, 800), (b, 1200)]
    let marked := (FileStore.empty 500).markAll marks
    (∀ m ∈ marks, m.2 ≤ 1299) ∧ marked.isJustChanged a 1299 = true ∧
      marked.isJustChanged a 1300 = false := by
  intro a b marks marked
  have hnow : ∀ m ∈ marks, m.2 ≤ 1299 := by decide
  have hlater : ∀ m ∈ marks, m.2 ≤ 1300 := by decide
  have hlast : lastMark? marks a = some 800 := by decide
  obtain ⟨hwithin, -⟩ := last_mark_decides 500 marks 1299 hnow a
  obtain ⟨hover, -⟩ := last_mark_decides 500 marks 1300 hlater a
  refine ⟨hnow, hwithin.mpr ⟨800, hlast, by omega⟩, Bool.eq_false_iff.mpr fun hmarked => ?_⟩
  obtain ⟨t, ht, hbefore⟩ := hover.mp hmarked
  rw [hlast] at ht
  cases ht
  omega

end SymbolAtlas
