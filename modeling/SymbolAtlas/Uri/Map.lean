import SymbolAtlas.Uri

/-!
# Maps keyed by identifiers

A finite map from identifiers, listed in ascending order. The listing shows
each key once, so it says nothing about the order in which entries came.

## Main results

* `get?_insert`, `get?_erase`: what the operations do to look-ups.
* `mem_entries_iff`: the listing holds exactly the look-ups.
-/

namespace SymbolAtlas

namespace Uri

theorem lt_irrefl (u : Uri) : ¬u < u := String.lt_irrefl u.text

theorem lt_trans {a b c : Uri} (hab : a < b) (hbc : b < c) : a < c := String.lt_trans hab hbc

theorem eq_of_not_lt {a b : Uri} (hab : ¬a < b) (hba : ¬b < a) : a = b := by
  cases a with
  | mk s =>
    cases b with
    | mk t => exact congrArg Uri.mk (String.le_antisymm hba hab)

theorem ne_of_lt {a b : Uri} (h : a < b) : a ≠ b := fun e => lt_irrefl b (e ▸ h)

end Uri

/-- A finite map from identifiers, as its listing in ascending order. -/
structure UriMap (α : Type) where
  entries : List (Uri × α)
  ascending : entries.Pairwise fun a b => a.1 < b.1

namespace UriMap

variable {α : Type}

/-- The map without entries. -/
def empty : UriMap α := ⟨[], .nil⟩

instance : Inhabited (UriMap α) := ⟨empty⟩

/-- Puts an entry into an ascending listing, in place of one with the same key. -/
def insertEntry (u : Uri) (a : α) : List (Uri × α) → List (Uri × α)
  | [] => [(u, a)]
  | e :: es =>
    if u < e.1 then (u, a) :: e :: es
    else if e.1 < u then e :: insertEntry u a es
    else (u, a) :: es

theorem mem_insertEntry {u : Uri} {a : α} {es : List (Uri × α)} {x : Uri × α}
    (h : x ∈ insertEntry u a es) : x = (u, a) ∨ x ∈ es := by
  induction es with
  | nil => simpa [insertEntry] using h
  | cons e es ih =>
    simp only [insertEntry] at h
    split at h
    · simpa using h
    · split at h
      · rcases List.mem_cons.1 h with h | h
        · exact .inr (h ▸ List.mem_cons_self)
        · exact (ih h).imp id (List.mem_cons_of_mem _)
      · rcases List.mem_cons.1 h with h | h
        · exact .inl h
        · exact .inr (List.mem_cons_of_mem _ h)

theorem ascending_insertEntry (u : Uri) (a : α) {es : List (Uri × α)}
    (h : es.Pairwise fun a b => a.1 < b.1) :
    (insertEntry u a es).Pairwise fun a b => a.1 < b.1 := by
  induction es with
  | nil => simp [insertEntry]
  | cons e es ih =>
    have ⟨hhead, htail⟩ := List.pairwise_cons.1 h
    simp only [insertEntry]
    split
    next hlt =>
      refine List.pairwise_cons.2 ⟨fun x hx => ?_, h⟩
      rcases List.mem_cons.1 hx with rfl | hx
      · exact hlt
      · exact Uri.lt_trans hlt (hhead x hx)
    next hnot =>
      split
      next hlt =>
        refine List.pairwise_cons.2 ⟨fun x hx => ?_, ih htail⟩
        rcases mem_insertEntry hx with rfl | hx
        · exact hlt
        · exact hhead x hx
      next hnot' =>
        have heq : u = e.1 := Uri.eq_of_not_lt hnot hnot'
        exact List.pairwise_cons.2 ⟨fun x hx => heq ▸ hhead x hx, htail⟩

/-- The map with `a` at `u`. -/
def insert (m : UriMap α) (u : Uri) (a : α) : UriMap α :=
  ⟨insertEntry u a m.entries, ascending_insertEntry u a m.ascending⟩

/-- The map without an entry at `u`. -/
def erase (m : UriMap α) (u : Uri) : UriMap α :=
  ⟨m.entries.filter fun e => e.1 != u, m.ascending.filter _⟩

/-- The map with the entries that satisfy `p`. -/
def filter (m : UriMap α) (p : Uri → α → Bool) : UriMap α :=
  ⟨m.entries.filter fun e => p e.1 e.2, m.ascending.filter _⟩

/-- The value at `u`. -/
def get? (m : UriMap α) (u : Uri) : Option α := (m.entries.find? fun e => e.1 == u).map (·.2)

/-- There is a value at `u`. -/
def contains (m : UriMap α) (u : Uri) : Bool := (m.get? u).isSome

/-- The keys, ascending. -/
def keys (m : UriMap α) : List Uri := m.entries.map (·.1)

/-- The values, in the order of their keys. -/
def values (m : UriMap α) : List α := m.entries.map (·.2)

/-- There is no entry. -/
def isEmpty (m : UriMap α) : Bool := m.entries.isEmpty

@[simp] theorem get?_empty (u : Uri) : (empty : UriMap α).get? u = none := rfl

theorem find?_insertEntry (u v : Uri) (a : α) {es : List (Uri × α)}
    (h : es.Pairwise fun a b => a.1 < b.1) :
    ((insertEntry u a es).find? fun e => e.1 == v) =
      if u = v then some (u, a) else es.find? fun e => e.1 == v := by
  induction es with
  | nil => by_cases huv : u = v <;> simp [insertEntry, huv]
  | cons e es ih =>
    have ⟨hhead, htail⟩ := List.pairwise_cons.1 h
    simp only [insertEntry]
    split
    next hlt => by_cases huv : u = v <;> simp [List.find?_cons, huv]
    next hnot =>
      split
      next hlt =>
        rw [List.find?_cons, ih htail, List.find?_cons]
        by_cases huv : u = v
        · have hne : (e.1 == v) = false :=
            beq_eq_false_iff_ne.2 fun he => Uri.lt_irrefl v (by rw [he, huv] at hlt; exact hlt)
          simp [huv, hne]
        · simp [huv]
      next hnot' =>
        have heq : u = e.1 := Uri.eq_of_not_lt hnot hnot'
        by_cases huv : u = v
        · simp [huv]
        · have : ¬e.1 = v := heq ▸ huv
          simp [huv, this]

/-- An insertion decides the value at its key and leaves the others alone. -/
theorem get?_insert (m : UriMap α) (u v : Uri) (a : α) :
    (m.insert u a).get? v = if u = v then some a else m.get? v := by
  unfold get? insert
  rw [find?_insertEntry u v a m.ascending]
  split <;> simp

/-- An erasure empties its key and leaves the others alone. -/
theorem get?_erase (m : UriMap α) (u v : Uri) :
    (m.erase u).get? v = if u = v then none else m.get? v := by
  have key (es : List (Uri × α)) :
      ((es.filter fun e => e.1 != u).find? fun e => e.1 == v) =
        if u = v then none else es.find? fun e => e.1 == v := by
    induction es with
    | nil => simp
    | cons e es ih =>
      by_cases heu : e.1 = u
      · by_cases huv : u = v
        · simp_all
        · have : ¬e.1 = v := heu ▸ huv
          simp_all
      · by_cases hev : e.1 = v
        · have hvu : ¬v = u := fun hvu => heu (hev.trans hvu)
          have huv : ¬u = v := fun h => hvu h.symm
          simp [hev, huv, hvu]
        · simp_all
  unfold get? erase
  rw [key]
  split <;> rfl

/-- Being listed and being looked up are the same. -/
theorem mem_entries_iff (m : UriMap α) (u : Uri) (a : α) :
    (u, a) ∈ m.entries ↔ m.get? u = some a := by
  have key (es : List (Uri × α)) (h : es.Pairwise fun a b => a.1 < b.1) :
      (u, a) ∈ es ↔ (es.find? fun e => e.1 == u).map (·.2) = some a := by
    induction es with
    | nil => simp
    | cons e es ih =>
      have ⟨hhead, htail⟩ := List.pairwise_cons.1 h
      by_cases heu : e.1 = u
      · have hnot : (u, a) ∉ es := fun hmem => Uri.ne_of_lt (hhead _ hmem) heu
        simp only [List.mem_cons, hnot, or_false, List.find?_cons, heu, BEq.rfl, Option.map_some,
          Option.some.injEq]
        constructor
        · intro h; rw [← h]
        · intro h; rw [← h, ← heu]
      · have : ¬(u, a) = e := fun h => heu (by rw [← h])
        simp [heu, this, ih htail]
  exact key m.entries m.ascending

end UriMap

end SymbolAtlas
