import Mathlib.Data.List.Basic
import Mathlib.Data.List.TakeWhile
import SymbolAtlas.Disk.Path

/-!
# How identifiers spell paths

A path can be spelled by many identifiers, as any byte of a name may be written by its number. The
identifier of a path uses one of the spellings, which writes by number what has to be and nothing
else. This module shows that it reads back as the same path, part by part, so that giving a path its
identifier again changes nothing: the identifiers that paths have are those that stay what they are
when they are read and written again.

## Main results

* `Uri.decode_encodeBytes_append`: what is encoded is found again.
* `Disk.Path.exists_ofUri?_of_toUri?`: the identifier of a path reads back as a path with the same
  parts.
* `Disk.Path.respell?_eq_self_iff`: the identifiers of paths are those that respelling leaves as
  they are.
-/

namespace SymbolAtlas

/-! ### Percent encoding -/

namespace Uri

theorem hexValue?_hexDigit {n : Nat} (h : n < 16) : hexValue? (hexDigit n) = some n := by
  have hall : ∀ n ∈ List.range 16, hexValue? (hexDigit n) = some n := by decide
  exact hall n (List.mem_range.mpr h)

/-- A byte written by its number is found again. -/
theorem decode_encodeByte_append (b : UInt8) (cs : List Char) :
    decode (encodeByte b ++ cs) = b :: decode cs := by
  have hb : b.toNat < 256 := b.toNat_lt_size
  have hhigh : hexValue? (hexDigit (b.toNat / 16)) = some (b.toNat / 16) :=
    hexValue?_hexDigit (by omega)
  have hlow : hexValue? (hexDigit (b.toNat % 16)) = some (b.toNat % 16) :=
    hexValue?_hexDigit (by omega)
  have hjoin : 16 * (b.toNat / 16) + b.toNat % 16 = b.toNat := by omega
  simp only [encodeByte, List.cons_append, List.nil_append, decode, hhigh, hlow, hjoin,
    UInt8.ofNat_toNat]

/-- What is not a percent sign stands for itself. -/
theorem decode_cons_of_ne {c : Char} (hc : c ≠ '%') (cs : List Char) :
    decode (c :: cs) = String.utf8EncodeChar c ++ decode cs := by
  rw [decode.eq_def]
  split
  next heq => exact absurd (List.cons.inj heq).1 hc
  next heq =>
    obtain ⟨rfl, rfl⟩ := List.cons.inj heq
    rfl
  next heq => cases heq

/-- The bytes of an ASCII character are its number. -/
theorem utf8EncodeChar_ofNat {b : UInt8} (h : b < 0x7F) :
    String.utf8EncodeChar (Char.ofNat b.toNat) = [b] := by
  have hlt : b.toNat < 0x7F := UInt8.lt_iff_toNat_lt.mp h
  have hvalid : b.toNat.isValidChar := .inl (by omega)
  have hval : (Char.ofNat b.toNat).val.toNat = b.toNat := by
    rw [Char.ofNat, dif_pos hvalid]
    rfl
  rw [String.utf8EncodeChar]
  simp only [hval]
  rw [if_pos (by omega), UInt8.ofNat_toNat]

/-- **What is encoded is found again**, if percent signs are encoded. -/
theorem decode_encodeBytes_append {set : EncodeSet} (hset : '%' ∈ set) (bs : List UInt8)
    (cs : List Char) : decode (encodeBytes set bs ++ cs) = bs ++ decode cs := by
  induction bs with
  | nil => rfl
  | cons b bs ih =>
      simp only [encodeBytes] at ih ⊢
      rw [List.flatMap_cons, List.append_assoc]
      split
      next => rw [decode_encodeByte_append, ih, List.cons_append]
      next hshown =>
        simp only [not_or, UInt8.not_le] at hshown
        have hne : Char.ofNat b.toNat ≠ '%' := fun heq => hshown.2.2 (heq ▸ hset)
        rw [List.singleton_append, decode_cons_of_ne hne, utf8EncodeChar_ofNat hshown.2.1, ih]
        rfl

theorem decode_encodeBytes {set : EncodeSet} (hset : '%' ∈ set) (bs : List UInt8) :
    decode (encodeBytes set bs) = bs := by
  have h := decode_encodeBytes_append hset bs []
  rwa [List.append_nil, decode, List.append_nil] at h

/-- What is always written by number does not show, unless it is used for writing numbers. -/
theorem not_mem_encodeBytes {set : EncodeSet} {c : Char} (hset : c ∈ set) (hpercent : c ≠ '%')
    (hdigit : ∀ n ∈ List.range 16, hexDigit n ≠ c) (bs : List UInt8) :
    c ∉ encodeBytes set bs := by
  intro hmem
  obtain ⟨b, -, hb⟩ := List.mem_flatMap.mp hmem
  have hlt : b.toNat < 256 := b.toNat_lt_size
  dsimp only at hb
  split at hb
  · simp only [encodeByte, List.mem_cons, List.not_mem_nil, or_false] at hb
    rcases hb with hb | hb | hb
    · exact hpercent hb
    · exact hdigit (b.toNat / 16) (List.mem_range.mpr (by omega)) hb.symm
    · exact hdigit (b.toNat % 16) (List.mem_range.mpr (by omega)) hb.symm
  next hshown =>
    obtain rfl := List.mem_singleton.mp hb
    exact hshown (.inr (.inr hset))

end Uri

/-- A text of pieces, each after a separator, is cut into these pieces. -/
theorem Text.splitOn_append_flatMap {α : Type} [DecidableEq α] {sep : α} {pieces : List (List α)}
    (h : ∀ piece ∈ pieces, sep ∉ piece) {first : List α} (hfirst : sep ∉ first) :
    Text.splitOn sep (first ++ pieces.flatMap (sep :: ·)) = first :: pieces := by
  induction pieces generalizing first with
  | nil => rw [List.flatMap_nil, List.append_nil, Text.splitOn_of_not_mem hfirst]
  | cons piece pieces ih =>
      obtain ⟨hpiece, hrest⟩ := List.forall_mem_cons.mp h
      rw [List.flatMap_cons, List.cons_append, Text.splitOn_append hfirst, ih hrest hpiece]

namespace Disk

/-! ### Names of a path -/

/-- A part that is a piece of a path has its bytes. -/
theorem Part.bytes_of_ofPiece? {piece : List UInt8} {part : Part}
    (h : Part.ofPiece? piece = some part) : part.bytes = piece := by
  rw [Part.ofPiece?] at h
  split at h
  · cases h
  · split at h
    next hparent =>
      cases h
      exact hparent.symm
    next =>
      cases h
      rfl

namespace Path

/-- What stands after the slashes of the identifier of an absolute path: its names, or nothing once
for the top. -/
def names (p : Path) : List Name :=
  if p.parts.drop 1 = [] then [[]] else (p.parts.drop 1).map Part.bytes

theorem names_ne_nil (p : Path) : p.names ≠ [] := by
  rw [names]
  split
  · exact List.cons_ne_nil _ _
  next hne => exact fun hnil => hne (List.map_eq_nil_iff.mp hnil)

/-- The identifier with the given names. -/
def uriOf (names : List Name) : Uri :=
  ⟨"file://" ++ String.ofList (names.flatMap fun n => '/' :: Uri.encodeBytes Uri.segmentSet n)⟩

theorem toUri?_eq (p : Path) : p.toUri? = if p.isAbsolute then some (uriOf p.names) else none := by
  rw [toUri?, names, uriOf]
  cases p.parts.drop 1 <;> rfl

/-- The parts of an absolute path below the top. -/
theorem parts_of_isAbsolute {p : Path} (h : p.isAbsolute = true) :
    p.parts = .root :: (Text.splitOn slash p.bytes).filterMap Part.ofPiece? := by
  rw [parts, if_pos h]
  rfl

/-- The names of an absolute path hold no slash, and are pieces of its parts. -/
theorem names_spec {p : Path} (h : p.isAbsolute = true) :
    (∀ n ∈ p.names, slash ∉ n) ∧ .root :: p.names.filterMap Part.ofPiece? = p.parts := by
  have hpiece : ∀ part ∈ p.parts.drop 1, slash ∉ part.bytes ∧
      Part.ofPiece? part.bytes = some part := by
    intro part hpart
    rw [parts_of_isAbsolute h] at hpart
    obtain ⟨piece, hmem, hsome⟩ := List.mem_filterMap.mp hpart
    rw [Part.bytes_of_ofPiece? hsome]
    exact ⟨Text.not_mem_of_mem_splitOn hmem, hsome⟩
  have hparts : p.parts = .root :: p.parts.drop 1 := by
    rw [parts_of_isAbsolute h]
    rfl
  rw [names]
  split
  next hnil =>
    rw [hparts, hnil]
    simp [Part.ofPiece?]
  next =>
    constructor
    · intro n hn
      obtain ⟨part, hpart, rfl⟩ := List.mem_map.mp hn
      exact (hpiece part hpart).1
    · have hself : (p.parts.drop 1).filterMap (Part.ofPiece? ∘ Part.bytes) = p.parts.drop 1 := by
        have hsome : ∀ part ∈ p.parts.drop 1, (Part.ofPiece? ∘ Part.bytes) part = some part :=
          fun part hpart => (hpiece part hpart).2
        rw [List.filterMap_congr hsome, List.filterMap_some]
      rw [List.filterMap_map, hself, ← hparts]

/-! ### Reading the identifier of a path -/

/-- A slash at the end is all that is added. -/
theorem closeDrive_cases (bytes : List UInt8) :
    closeDrive bytes = bytes ∨ closeDrive bytes = bytes ++ [slash] := by
  rw [closeDrive]
  split
  · split
    · exact .inr rfl
    · exact .inl rfl
  · exact .inl rfl

/-- The path with the given names has the parts that they are. -/
theorem parts_closeDrive {names : List Name} (hne : names ≠ []) (h : ∀ n ∈ names, slash ∉ n) :
    let p : Path := ⟨closeDrive (names.flatMap (slash :: ·))⟩
    p.isAbsolute = true ∧ p.parts = .root :: names.filterMap Part.ofPiece? := by
  intro p
  -- a slash at the end leaves one more piece, which is empty
  obtain ⟨more, hmore, hbytes⟩ : ∃ more : List Name, more ⊆ [[]] ∧
      p.bytes = (names ++ more).flatMap (slash :: ·) := by
    rcases closeDrive_cases (names.flatMap (slash :: ·)) with hsame | hclosed
    · exact ⟨[], by simp, by simp [p, hsame]⟩
    · exact ⟨[[]], by simp, by simp [p, hclosed]⟩
  have habsolute : p.isAbsolute = true := by
    obtain ⟨first, rest, rfl⟩ := List.exists_cons_of_ne_nil hne
    rw [isAbsolute, hbytes]
    rfl
  have hfree : ∀ n ∈ names ++ more, slash ∉ n := by
    intro n hn
    rcases List.mem_append.mp hn with hname | hempty
    · exact h n hname
    · rw [List.mem_singleton.mp (hmore hempty)]
      exact List.not_mem_nil
  have hnone : more.filterMap Part.ofPiece? = [] :=
    List.filterMap_eq_nil_iff.mpr fun n hn => by rw [List.mem_singleton.mp (hmore hn)]; rfl
  have hcut := Text.splitOn_append_flatMap hfree List.not_mem_nil
  rw [List.nil_append, ← hbytes] at hcut
  refine ⟨habsolute, ?_⟩
  rw [parts_of_isAbsolute habsolute, hcut, List.filterMap_cons_none rfl, List.filterMap_append,
    hnone, List.append_nil]

/-- An encoded name holds none of the characters that end a segment or a path. -/
theorem not_mem_segment {c : Char} (hc : c = '/' ∨ c = '?' ∨ c = '#') (n : Name) :
    c ∉ Uri.encodeBytes Uri.segmentSet n := by
  rcases hc with rfl | rfl | rfl <;>
    exact Uri.not_mem_encodeBytes (by decide) (by decide) (by decide) n

/-- The identifier with the given names leads to the path with these names. -/
theorem ofUri?_uriOf {names : List Name} (hne : names ≠ []) :
    ofUri? (uriOf names) = some ⟨closeDrive (names.flatMap (slash :: ·))⟩ := by
  obtain ⟨first, rest, rfl⟩ := List.exists_cons_of_ne_nil hne
  let segment (n : Name) := Uri.encodeBytes Uri.segmentSet n
  let inner := segment first ++ (rest.map segment).flatMap ('/' :: ·)
  have hafter : (uriOf (first :: rest)).afterScheme = '/' :: '/' :: '/' :: inner := by
    have htext : (uriOf (first :: rest)).text.toList =
        ['f', 'i', 'l', 'e', ':', '/', '/'] ++ '/' :: inner := by
      simp [uriOf, inner, segment, List.flatMap_map]
    rw [Uri.afterScheme, htext]
    rfl
  have hauthority : (uriOf (first :: rest)).authority = (some [], '/' :: inner) := by
    rw [Uri.authority, hafter]
    rfl
  have hhost : (uriOf (first :: rest)).host? = none := by
    rw [Uri.host?, hauthority]
    rfl
  have hpath : (uriOf (first :: rest)).pathChars = '/' :: inner := by
    have hinside : ∀ c ∈ '/' :: inner, (!Uri.endsPath c) = true := by
      intro c hc
      have hends : Uri.endsPath c = true → c = '?' ∨ c = '#' := by simp [Uri.endsPath]
      refine Bool.not_eq_true' _ ▸ Bool.eq_false_iff.mpr fun hend => ?_
      have hclear (n : Name) : c ∉ segment n := not_mem_segment (.inr (hends hend)) n
      simp only [inner, List.mem_cons, List.mem_append, List.mem_flatMap, List.mem_map] at hc
      obtain rfl | hfirst | ⟨-, ⟨n, -, rfl⟩, rfl | hrest⟩ := hc
      · cases hend
      · exact hclear first hfirst
      · cases hend
      · exact hclear n hrest
    rw [Uri.pathChars, hauthority]
    exact List.takeWhile_eq_self_iff.mpr hinside
  have hsegments : (uriOf (first :: rest)).segments? = some ((first :: rest).map segment) := by
    have hfree : ∀ piece ∈ rest.map segment, '/' ∉ piece := by
      intro piece hpiece
      obtain ⟨n, -, rfl⟩ := List.mem_map.mp hpiece
      exact not_mem_segment (.inl rfl) n
    rw [Uri.segments?, hpath]
    exact congrArg some (Text.splitOn_append_flatMap hfree (not_mem_segment (.inl rfl) first))
  have hdecode (n : Name) : Uri.decode (segment n) = n := Uri.decode_encodeBytes (by decide) n
  rw [ofUri?, hsegments, hhost]
  simp only [Option.bind_eq_bind, Option.bind_some, ofSegments, List.flatMap_map, hdecode]

/-- **The identifier of a path reads back** as a path with the same parts. -/
theorem exists_ofUri?_of_toUri? {p : Path} {u : Uri} (h : p.toUri? = some u) :
    ∃ q, ofUri? u = some q ∧ q.isAbsolute = true ∧ q.parts = p.parts := by
  rw [toUri?_eq] at h
  split at h
  next habsolute =>
    cases h
    obtain ⟨hfree, hparts⟩ := names_spec habsolute
    obtain ⟨habsolute', hparts'⟩ := parts_closeDrive p.names_ne_nil hfree
    exact ⟨_, ofUri?_uriOf p.names_ne_nil, habsolute', hparts'.trans hparts⟩
  next => cases h

/-! ### Respelling -/

/-- The identifier of the path that an identifier leads to. -/
def respell? (u : Uri) : Option Uri := (ofUri? u).bind toUri?

/-- An identifier leads to absolute paths only. -/
theorem isAbsolute_of_ofUri? {u : Uri} {p : Path} (h : ofUri? u = some p) :
    p.isAbsolute = true := by
  have hsegments {segments : List (List Char)} (hne : segments ≠ []) :
      (ofSegments segments).isAbsolute = true := by
    obtain ⟨first, rest, rfl⟩ := List.exists_cons_of_ne_nil hne
    rw [isAbsolute, ofSegments]
    rcases closeDrive_cases ((first :: rest).flatMap fun segment => slash :: Uri.decode segment)
      with heq | heq <;> rw [heq] <;> rfl
  obtain ⟨segments, hsome, hp⟩ := Option.bind_eq_some_iff.mp h
  have hne : segments ≠ [] := by
    rw [Uri.segments?] at hsome
    split at hsome
    · cases hsome
      exact Text.splitOn_ne_nil _ _
    · cases hsome
  split at hp
  · cases hp
    exact hsegments hne
  · split at hp
    · cases hp
      exact hsegments hne
    · cases hp

/-- An identifier that leads to a path can be respelled. -/
theorem exists_toUri?_of_ofUri? {u : Uri} {p : Path} (h : ofUri? u = some p) :
    ∃ v, p.toUri? = some v := by
  rw [toUri?_eq, if_pos (isAbsolute_of_ofUri? h)]
  exact ⟨_, rfl⟩

/-- **The identifiers of paths are those that respelling leaves as they are.** -/
theorem respell?_eq_self_iff (u : Uri) : respell? u = some u ↔ ∃ p : Path, p.toUri? = some u := by
  constructor
  · intro h
    obtain ⟨p, -, hp⟩ := Option.bind_eq_some_iff.mp h
    exact ⟨p, hp⟩
  · rintro ⟨p, hp⟩
    obtain ⟨q, hq, habsolute, hparts⟩ := exists_ofUri?_of_toUri? hp
    have habsolute' : p.isAbsolute = true := by
      rw [toUri?_eq] at hp
      split at hp
      next htrue => exact htrue
      next => cases hp
    rw [respell?, hq, Option.bind_some, ← hp, toUri?, toUri?, habsolute, habsolute', hparts]

end Path

end Disk

end SymbolAtlas
