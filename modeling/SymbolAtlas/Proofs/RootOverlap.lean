import Mathlib.Data.List.Forall2
import Mathlib.Data.List.Monad
import Mathlib.Data.List.Nodup
import SymbolAtlas.Proofs.DiskAnswers
import SymbolAtlas.Proofs.RepeatedFiles
import SymbolAtlas.Proofs.Walks

/-!
# Folders that overlap

A workspace may have folders that lie in one another, or one folder twice. Its listing walks through
each of them and sorts what it finds, so that a file appears once for every folder that lists it.
This module counts how often. A folder on its own lists every file once, by the parts of its path,
and what two folders both list is found by the position of one below the other: rules that pass over
an entry are the same for both, except that a folder itself is never passed over.

Files that are listed more than once come with the same text each time. So what they declare is
indexed as often as they are listed, unless they wait.

## Main results

* `Disk.Path.pairwise_le_mergeSort`: sorted paths are in order.
* `Disk.Workspace.nodup_listed`, `Disk.Workspace.mem_listed_iff`: what a folder lists on its own.
* `Disk.Workspace.mem_listed_both_iff`: what two folders both list.
* `Disk.Workspace.count_map_uri`: how often the workspace lists a file.
* `listing_counts_folders`: the listing and the index that is built from it.
-/

namespace SymbolAtlas

/-- A list of computations succeeds if each of them does, with their results in order. -/
theorem mapM_eq_ok_iff {α β ε : Type} {f : α → Except ε β} {xs : List α} {ys : List β} :
    xs.mapM f = .ok ys ↔ List.Forall₂ (fun x y => f x = .ok y) xs ys := by
  induction xs generalizing ys with
  | nil =>
      rw [List.mapM_nil, List.forall₂_nil_left_iff]
      constructor
      · intro h
        cases h
        rfl
      · rintro rfl
        rfl
  | cons x xs ih =>
      rw [List.mapM_cons, List.forall₂_cons_left_iff]
      cases hx : f x with
      | error cause => simp [bind, Except.bind]
      | ok y =>
          cases hxs : xs.mapM f with
          | error cause =>
              have hnone (ys : List β) : ¬List.Forall₂ (fun x y => f x = .ok y) xs ys := by
                intro h
                rw [ih.mpr h] at hxs
                cases hxs
              simp [bind, Except.bind, hnone]
          | ok ys' =>
              have hrest (ys : List β) :
                  List.Forall₂ (fun x y => f x = .ok y) xs ys ↔ ys = ys' := by
                rw [← ih, hxs, Except.ok.injEq, eq_comm]
              simp [bind, Except.bind, pure, Except.pure, hrest, eq_comm]

namespace Disk

/-! ### The order of paths -/

namespace Part

variable {a b c : Part}

theorem before_iff : a.before b = true ↔ a.rank < b.rank ∨ a.rank = b.rank ∧ a.bytes < b.bytes := by
  simp [before]

theorem before_trans (hab : a.before b = true) (hbc : b.before c = true) : a.before c = true := by
  rw [before_iff] at hab hbc ⊢
  rcases hab with hab | ⟨hab, hbytes⟩
  · exact .inl (by omega)
  · rcases hbc with hbc | ⟨hbc, hbytes'⟩
    · exact .inl (by omega)
    · exact .inr ⟨hab.trans hbc, List.lt_trans hbytes hbytes'⟩

theorem before_irrefl (a : Part) : a.before a = false := by
  rw [Bool.eq_false_iff, ne_eq, before_iff]
  rintro (hrank | ⟨-, hbytes⟩)
  · omega
  · exact List.lt_irrefl _ hbytes

/-- Parts of one kind differ in their bytes. -/
theorem eq_of_rank_eq (hrank : a.rank = b.rank) (hbytes : a.bytes = b.bytes) : a = b := by
  cases a <;> cases b <;> simp_all [rank, bytes]

theorem before_or_before (h : a ≠ b) : a.before b = true ∨ b.before a = true := by
  rw [before_iff, before_iff]
  rcases Nat.lt_trichotomy a.rank b.rank with hrank | hrank | hrank
  · exact .inl (.inl hrank)
  · by_cases hlt : a.bytes < b.bytes
    · exact .inl (.inr ⟨hrank, hlt⟩)
    · by_cases hgt : b.bytes < a.bytes
      · exact .inr (.inr ⟨hrank.symm, hgt⟩)
      · exact absurd (eq_of_rank_eq hrank (List.le_antisymm hgt hlt)) h
  · exact .inr (.inl hrank)

end Part

namespace Path

theorem partsLE_total (as bs : List Part) : partsLE as bs = true ∨ partsLE bs as = true := by
  induction as generalizing bs with
  | nil => exact .inl rfl
  | cons a as ih =>
      cases bs with
      | nil => exact .inr rfl
      | cons b bs =>
          by_cases hab : a = b
          · simpa [partsLE, hab] using ih bs
          · simpa [partsLE, hab, Ne.symm hab] using Part.before_or_before hab

theorem partsLE_trans {as bs cs : List Part} (hab : partsLE as bs = true)
    (hbc : partsLE bs cs = true) : partsLE as cs = true := by
  induction as generalizing bs cs with
  | nil => rfl
  | cons a as ih =>
      cases bs with
      | nil => cases hab
      | cons b bs =>
          cases cs with
          | nil => cases hbc
          | cons c cs =>
              rw [partsLE] at hab hbc ⊢
              by_cases hb : a = b
              · subst hb
                rw [if_pos rfl] at hab
                by_cases hc : a = c
                · rw [if_pos hc] at hbc ⊢
                  exact ih hab hbc
                · rwa [if_neg hc] at hbc ⊢
              · rw [if_neg hb] at hab
                by_cases hc : b = c
                · subst hc
                  rwa [if_neg hb]
                · rw [if_neg hc] at hbc
                  have hac := Part.before_trans hab hbc
                  have hne : a ≠ c := by
                    rintro rfl
                    rw [Part.before_irrefl] at hac
                    cases hac
                  rwa [if_neg hne]

theorem le_total (p q : Path) : (p.le q || q.le p) = true := by
  rw [Bool.or_eq_true]
  exact partsLE_total p.parts q.parts

theorem le_trans (p q r : Path) (hpq : p.le q = true) (hqr : q.le r = true) : p.le r = true :=
  partsLE_trans hpq hqr

/-- Sorted paths are in order. -/
theorem pairwise_le_mergeSort (paths : List Path) :
    (paths.mergeSort le).Pairwise fun p q => p.le q = true :=
  List.pairwise_mergeSort le_trans le_total paths

/-! ### Folders and the paths below them -/

/-- The identifier is that of a path below the folder. -/
def Holds (root : Path) (u : Uri) : Prop := ∃ p, ofUri? u = some p ∧ root.parts <+: p.parts

theorem isAbsolute_of_toUri? {p : Path} {u : Uri} (h : p.toUri? = some u) :
    p.isAbsolute = true := by
  rw [toUri?_eq] at h
  split at h
  next habsolute => exact habsolute
  next => cases h

/-- Paths with one identifier have the same parts. -/
theorem parts_eq_of_toUri? {p q : Path} {u : Uri} (hp : p.toUri? = some u)
    (hq : q.toUri? = some u) : p.parts = q.parts := by
  obtain ⟨r, hr, -, hparts⟩ := exists_ofUri?_of_toUri? hp
  obtain ⟨r', hr', -, hparts'⟩ := exists_ofUri?_of_toUri? hq
  rw [hr] at hr'
  cases hr'
  exact hparts.symm.trans hparts'

/-- A file below a folder has the parts of the folder first. -/
theorem Holds.prefix_parts {root p : Path} {u : Uri} (h : root.Holds u) (hp : p.toUri? = some u) :
    root.parts <+: p.parts := by
  obtain ⟨q, hq, hbelow⟩ := h
  obtain ⟨r, hr, -, hparts⟩ := exists_ofUri?_of_toUri? hp
  rw [hq] at hr
  cases hr
  rwa [← hparts]

/-- Names that lead from a folder to a file pass through every folder between them. -/
theorem exists_between {outer inner file : Path} {names : List Name}
    (hfile : file.parts = outer.parts ++ names.map .name) (hnested : outer.parts <+: inner.parts)
    (hbelow : inner.parts <+: file.parts) : ∃ between more, names = between ++ more ∧
      inner.parts = outer.parts ++ between.map .name := by
  obtain ⟨parts, hinner⟩ := hnested
  rw [hfile, ← hinner, List.prefix_append_right_inj] at hbelow
  obtain ⟨parts', hnames⟩ := hbelow
  obtain ⟨between, more, rfl, rfl, -⟩ := List.map_eq_append_iff.mp hnames.symm
  exact ⟨between, more, rfl, hinner.symm⟩

/-- A path with the parts of an absolute path has the same identifier, if it is absolute. -/
theorem toUri?_eq_of_parts_eq {p q : Path} (habsolute : p.isAbsolute = q.isAbsolute)
    (hparts : p.parts = q.parts) : p.toUri? = q.toUri? := by
  rw [toUri?, toUri?, habsolute, hparts]

/-- The parts of a path show whether it is absolute. -/
theorem isAbsolute_iff (p : Path) : p.isAbsolute = true ↔ [Part.root] <+: p.parts := by
  constructor
  · intro h
    rw [parts_of_isAbsolute h]
    exact List.prefix_append [Part.root] _
  · intro h
    by_contra hrelative
    have hroot : Part.root ∈ p.parts := h.subset (List.mem_singleton.mpr rfl)
    rw [parts, if_neg hrelative, List.mem_append] at hroot
    rcases hroot with hstart | hpiece
    · split at hstart <;> simp at hstart
    · obtain ⟨piece, -, hpiece⟩ := List.mem_filterMap.mp hpiece
      rw [Part.ofPiece?] at hpiece
      split at hpiece
      · cases hpiece
      · split at hpiece <;> cases hpiece

theorem isAbsolute_descend {path : Path} (hpath : path.bytes ≠ []) (names : List Name) :
    (path.descend names).isAbsolute = path.isAbsolute := by
  induction names generalizing path with
  | nil => rfl
  | cons n names ih => exact (ih (bytes_child_ne_nil hpath n)).trans (isAbsolute_child hpath n)

end Path

namespace Workspace

variable {w : Workspace} {root : Path} {u : Uri} {f g : FileEntry} {files : List FileEntry}

/-! ### The files of one folder -/

/-- A file that is read. -/
theorem read?_eq_some_iff {p : Path} : w.read? p = some f ↔ p.toUri? = some f.uri ∧
    f.relativePath = w.relativePath p ∧
      ∃ text, w.tree.readText? p = some text ∧ f.contents = String.ofList text := by
  obtain ⟨u, relativePath, contents⟩ := f
  rw [read?]
  cases p.toUri? with
  | none => simp
  | some v =>
      cases w.tree.readText? p with
      | none => simp
      | some text => simp [eq_comm]

/-- The identifier under which the file at a path is listed. -/
def listedAs? (w : Workspace) (p : Path) : Option Uri := (w.read? p).map (·.uri)

theorem listedAs?_eq_some_iff {p : Path} : w.listedAs? p = some u ↔
    p.toUri? = some u ∧ ∃ text, w.tree.readText? p = some text := by
  rw [listedAs?, Option.map_eq_some_iff]
  constructor
  · rintro ⟨f, hf, rfl⟩
    obtain ⟨huri, -, text, htext, -⟩ := read?_eq_some_iff.mp hf
    exact ⟨huri, text, htext⟩
  · rintro ⟨huri, text, htext⟩
    exact ⟨⟨u, w.relativePath p, String.ofList text⟩,
      read?_eq_some_iff.mpr ⟨huri, rfl, text, htext, rfl⟩, rfl⟩

/-- Paths with the same parts that lead somewhere are listed alike. -/
theorem listedAs?_eq_of_parts_eq {p q : Path} {a b : Place} (hp : w.tree.place p = .ok a)
    (hq : w.tree.place q = .ok b) (habsolute : p.isAbsolute = true)
    (habsolute' : q.isAbsolute = true) (hparts : p.parts = q.parts) :
    w.isSource p = w.isSource q ∧ w.listedAs? p = w.listedAs? q := by
  have huri := Path.toUri?_eq_of_parts_eq (habsolute.trans habsolute'.symm) hparts
  have htext := FileTree.readText?_eq_of_parts_eq hp hq habsolute habsolute' hparts
  refine ⟨by rw [isSource, isSource, Path.name?, Path.name?, hparts], Option.ext fun u => ?_⟩
  rw [listedAs?_eq_some_iff, listedAs?_eq_some_iff, huri, htext]

/-- The identifier does not depend on the folders. -/
theorem listedAs?_roots (w : Workspace) (roots : List Path) :
    listedAs? { w with roots } = w.listedAs? := by
  funext p
  refine Option.ext fun u => ?_
  rw [listedAs?_eq_some_iff, listedAs?_eq_some_iff]

/-- **The listing of a workspace** is that of its folders, sorted. -/
theorem allFiles_eq_ok_iff : w.provider.allFiles = .ok files ↔
    ∃ below, List.Forall₂ (fun root paths => w.pathsBelow root = .ok paths) w.roots below ∧
      files = (below.flatten.mergeSort Path.le).filterMap w.read? := by
  simp only [← mapM_eq_ok_iff, provider, paths, bind, Except.bind, pure, Except.pure]
  cases w.roots.mapM w.pathsBelow with
  | error cause => simp
  | ok below => simp [eq_comm]

/-- The identifiers of the files that a folder lists on its own. -/
def listed (w : Workspace) (root : Path) : List Uri :=
  match ({ w with roots := [root] } : Workspace).provider.allFiles with
  | .ok files => files.map (·.uri)
  | .error _ => []

theorem map_uri_filterMap_read? (w : Workspace) (paths : List Path) :
    (paths.filterMap w.read?).map (·.uri) = paths.filterMap w.listedAs? := by
  rw [List.map_filterMap]
  rfl

/-- What a folder lists on its own. -/
theorem listed_perm {paths : List Path} (hpaths : w.pathsBelow root = .ok paths) :
    (w.listed root).Perm (paths.filterMap w.listedAs?) := by
  have hall : ({ w with roots := [root] } : Workspace).provider.allFiles =
      .ok ((paths.mergeSort Path.le).filterMap (read? { w with roots := [root] })) := by
    refine allFiles_eq_ok_iff.mpr ⟨[paths], .cons hpaths .nil, ?_⟩
    rw [List.flatten_singleton]
  rw [listed, hall]
  simp only [map_uri_filterMap_read?, listedAs?_roots]
  exact (List.mergeSort_perm paths Path.le).filterMap _

theorem listed_of_error {cause : ProviderError} (h : w.pathsBelow root = .error cause) :
    w.listed root = [] := by
  rw [listed]
  split
  next files hfiles =>
    obtain ⟨below, hbelow, -⟩ := allFiles_eq_ok_iff.mp hfiles
    obtain ⟨paths, -, hpaths, -⟩ := List.forall₂_cons_left_iff.mp hbelow
    rw [show pathsBelow { w with roots := [root] } root = w.pathsBelow root from rfl, h] at hpaths
    cases hpaths
  next => rfl

/-- The paths below a folder that leads somewhere. -/
theorem pathsBelow_eq_ok_iff {paths : List Path} : w.pathsBelow root = .ok paths ↔
    root = standardInput ∧ paths = [] ∨
      root ≠ standardInput ∧ ∃ place, w.tree.place root = .ok place ∧
        paths = (place.walk root).filter w.isSource := by
  rw [pathsBelow]
  by_cases hinput : root = standardInput
  · simp [hinput, eq_comm]
  · rw [if_neg hinput]
    cases w.tree.place root with
    | error fault => simp [hinput]
    | ok place => simp [hinput, eq_comm]

/-- **A folder lists every file once.** -/
theorem nodup_listed (hw : w.tree.top.WellFormed) (root : Path) : (w.listed root).Nodup := by
  cases hpaths : w.pathsBelow root with
  | error cause =>
      rw [listed_of_error hpaths]
      exact List.nodup_nil
  | ok paths =>
      rw [(listed_perm hpaths).nodup_iff]
      have hdistinct : (paths.map Path.parts).Nodup := by
        rcases pathsBelow_eq_ok_iff.mp hpaths with ⟨-, rfl⟩ | ⟨-, place, hplace, rfl⟩
        · exact List.nodup_nil
        · obtain ⟨hbytes, -⟩ := FileTree.place_eq_ok_iff.mp hplace
          have hwalk := Place.nodup_parts_walk (FileTree.wellFormed_of_place hw hplace) hbytes
          exact hwalk.sublist (List.filter_sublist.map _)
      refine List.pairwise_filterMap.mpr ((List.pairwise_map.mp hdistinct).imp ?_)
      rintro p q hne u hp v hq rfl
      exact hne (Path.parts_eq_of_toUri? (listedAs?_eq_some_iff.mp hp).1
        (listedAs?_eq_some_iff.mp hq).1)

/-- **What a folder lists**: the files that a walk gets to, if they are read. -/
theorem mem_listed_iff (hw : w.tree.top.WellFormed) : u ∈ w.listed root ↔
    ∃ place names, w.tree.place root = .ok place ∧ place.Lists names ∧
      w.isSource (root.descend names) = true ∧ w.listedAs? (root.descend names) = some u := by
  constructor
  · intro hu
    cases hpaths : w.pathsBelow root with
    | error cause =>
        rw [listed_of_error hpaths] at hu
        cases hu
    | ok paths =>
        obtain ⟨p, hp, huri⟩ := List.mem_filterMap.mp ((listed_perm hpaths).mem_iff.mp hu)
        rcases pathsBelow_eq_ok_iff.mp hpaths with ⟨-, rfl⟩ | ⟨-, place, hplace, rfl⟩
        · cases hp
        · obtain ⟨hwalk, hsource⟩ := List.mem_filter.mp hp
          obtain ⟨names, hlists, rfl⟩ :=
            (Place.mem_walk_iff (FileTree.wellFormed_of_place hw hplace)).mp hwalk
          exact ⟨place, names, hplace, hlists, hsource, huri⟩
  · rintro ⟨place, names, hplace, hlists, hsource, huri⟩
    obtain ⟨hbytes, -⟩ := FileTree.place_eq_ok_iff.mp hplace
    have habsolute := Path.isAbsolute_of_toUri? (listedAs?_eq_some_iff.mp huri).1
    rw [Path.isAbsolute_descend hbytes] at habsolute
    have hinput : root ≠ standardInput := by
      rintro rfl
      cases habsolute
    have hpaths := pathsBelow_eq_ok_iff.mpr (.inr ⟨hinput, place, hplace, rfl⟩)
    refine (listed_perm hpaths).mem_iff.mpr (List.mem_filterMap.mpr ⟨_, ?_, huri⟩)
    refine List.mem_filter.mpr ⟨?_, hsource⟩
    exact (Place.mem_walk_iff (FileTree.wellFormed_of_place hw hplace)).mpr ⟨names, hlists, rfl⟩

/-! ### Folders inside one another -/

/-- What a folder lists lies below it, and the folder is absolute. -/
theorem holds_of_mem_listed (hw : w.tree.top.WellFormed) (hu : u ∈ w.listed root) :
    root.Holds u ∧ root.isAbsolute = true := by
  obtain ⟨place, names, hplace, hlists, -, huri⟩ := (mem_listed_iff hw).mp hu
  obtain ⟨hbytes, -⟩ := FileTree.place_eq_ok_iff.mp hplace
  obtain ⟨huri, -⟩ := listedAs?_eq_some_iff.mp huri
  obtain ⟨p, hp, -, hparts⟩ := Path.exists_ofUri?_of_toUri? huri
  have habsolute := Path.isAbsolute_of_toUri? huri
  rw [Path.isAbsolute_descend hbytes] at habsolute
  refine ⟨⟨p, hp, ?_⟩, habsolute⟩
  rw [hparts, Path.parts_descend hbytes
    (hlists.isEntry (FileTree.wellFormed_of_place hw hplace))]
  exact List.prefix_append _ _

/-- **A folder lists what an outer folder lists below it.** -/
theorem mem_listed_of_holds (hw : w.tree.top.WellFormed) {outer inner : Path} {place : Place}
    (hinner : w.tree.place inner = .ok place) (hnested : outer.parts <+: inner.parts)
    (hu : u ∈ w.listed outer) (hholds : inner.Holds u) : u ∈ w.listed inner := by
  obtain ⟨start, names, houter, hlists, hsource, hlisted⟩ := (mem_listed_iff hw).mp hu
  obtain ⟨-, habsolute⟩ := holds_of_mem_listed hw hu
  have habsolute' : inner.isAbsolute = true :=
    (Path.isAbsolute_iff inner).mpr (((Path.isAbsolute_iff outer).mp habsolute).trans hnested)
  have hstart := FileTree.wellFormed_of_place hw houter
  have hplace := FileTree.wellFormed_of_place hw hinner
  obtain ⟨hbytes, -⟩ := FileTree.place_eq_ok_iff.mp houter
  obtain ⟨hbytes', -⟩ := FileTree.place_eq_ok_iff.mp hinner
  have hfile := Path.parts_descend hbytes (hlists.isEntry hstart)
  -- the names from the outer folder are those to the inner one and more
  obtain ⟨between, more, rfl, hbetween⟩ := Path.exists_between hfile hnested
    (hholds.prefix_parts (listedAs?_eq_some_iff.mp hlisted).1)
  have hrest := FileTree.lists_of_between houter hinner habsolute habsolute' hbetween hlists
  have hparts : (outer.descend (between ++ more)).parts = (inner.descend more).parts := by
    rw [hfile, Path.parts_descend hbytes' (hrest.isEntry hplace), hbetween, List.map_append,
      List.append_assoc]
  obtain ⟨content, above, hread⟩ := FileTree.place_descend houter hstart hlists
  obtain ⟨content', above', hread'⟩ := FileTree.place_descend hinner hplace hrest
  rw [← Path.isAbsolute_descend hbytes (between ++ more)] at habsolute
  rw [← Path.isAbsolute_descend hbytes' more] at habsolute'
  obtain ⟨hsource', hlisted'⟩ := listedAs?_eq_of_parts_eq hread hread' habsolute habsolute' hparts
  exact (mem_listed_iff hw).mpr
    ⟨place, more, hinner, hrest, hsource'.symm.trans hsource, hlisted'.symm.trans hlisted⟩

/-! ### The files of all folders -/

/-- The listing fails if one of the folders leads nowhere, and only then. -/
theorem exists_allFiles_iff : (∃ files, w.provider.allFiles = .ok files) ↔
    ∀ root ∈ w.roots, root = standardInput ∨ ∃ place, w.tree.place root = .ok place := by
  have hone (root : Path) : (∃ paths, w.pathsBelow root = .ok paths) ↔
      root = standardInput ∨ ∃ place, w.tree.place root = .ok place := by
    simp only [pathsBelow_eq_ok_iff]
    by_cases hinput : root = standardInput <;> simp [hinput]
  have hall : (∃ files, w.provider.allFiles = .ok files) ↔
      ∃ below, List.Forall₂ (fun root paths => w.pathsBelow root = .ok paths) w.roots below := by
    simp only [allFiles_eq_ok_iff]
    exact ⟨fun ⟨_, below, hbelow, _⟩ => ⟨below, hbelow⟩,
      fun ⟨below, hbelow⟩ => ⟨_, below, hbelow, rfl⟩⟩
  simp only [hall, ← hone]
  induction w.roots with
  | nil => simp
  | cons root roots ih => simp [List.forall₂_cons_left_iff, ← ih]

/-- **Files are listed folder by folder**, up to their order. -/
theorem map_uri_perm (hfiles : w.provider.allFiles = .ok files) :
    (files.map (·.uri)).Perm (w.roots.flatMap w.listed) := by
  obtain ⟨below, hbelow, rfl⟩ := allFiles_eq_ok_iff.mp hfiles
  rw [map_uri_filterMap_read?]
  refine ((List.mergeSort_perm below.flatten Path.le).filterMap _).trans ?_
  clear hfiles
  generalize w.roots = roots at hbelow
  induction hbelow with
  | nil => exact .nil
  | cons hpaths _ ih =>
      rw [List.flatten_cons, List.filterMap_append, List.flatMap_cons]
      exact (listed_perm hpaths).symm.append ih

/-- **A file is listed as often as there are folders that list it.** -/
theorem count_map_uri (hw : w.tree.top.WellFormed) (hfiles : w.provider.allFiles = .ok files)
    (u : Uri) : (files.map (·.uri)).count u = w.roots.countP fun root => u ∈ w.listed root := by
  rw [(map_uri_perm hfiles).count_eq]
  induction w.roots with
  | nil => rfl
  | cons root roots ih =>
      rw [List.flatMap_cons, List.count_append, ih, List.countP_cons, Nat.add_comm,
        (nodup_listed hw root).count]
      simp

/-- **Files are listed in the order of their paths.** -/
theorem ascending_allFiles (hfiles : w.provider.allFiles = .ok files) :
    files.Pairwise fun f g => ∃ p q, Path.ofUri? f.uri = some p ∧ Path.ofUri? g.uri = some q ∧
      p.le q = true := by
  obtain ⟨below, -, rfl⟩ := allFiles_eq_ok_iff.mp hfiles
  refine List.pairwise_filterMap.mpr ((Path.pairwise_le_mergeSort below.flatten).imp ?_)
  intro p q hle f hf g hg
  obtain ⟨p', hp', -, hparts⟩ := Path.exists_ofUri?_of_toUri? (read?_eq_some_iff.mp hf).1
  obtain ⟨q', hq', -, hparts'⟩ := Path.exists_ofUri?_of_toUri? (read?_eq_some_iff.mp hg).1
  refine ⟨p', q', hp', hq', ?_⟩
  rw [Path.le, hparts, hparts']
  exact hle

/-- Files that are listed under one identifier have the same text. -/
theorem contents_eq_of_uri_eq (hfiles : w.provider.allFiles = .ok files) (hf : f ∈ files)
    (hg : g ∈ files) (huri : f.uri = g.uri) : f.contents = g.contents := by
  obtain ⟨below, -, rfl⟩ := allFiles_eq_ok_iff.mp hfiles
  obtain ⟨p, -, hp⟩ := List.mem_filterMap.mp hf
  obtain ⟨q, -, hq⟩ := List.mem_filterMap.mp hg
  obtain ⟨hfuri, -, text, htext, hftext⟩ := read?_eq_some_iff.mp hp
  obtain ⟨hguri, -, text', htext', hgtext⟩ := read?_eq_some_iff.mp hq
  obtain ⟨a, ha⟩ := FileTree.exists_place_of_readText? htext
  obtain ⟨b, hb⟩ := FileTree.exists_place_of_readText? htext'
  have hsame := FileTree.readText?_eq_of_parts_eq ha hb (Path.isAbsolute_of_toUri? hfuri)
    (Path.isAbsolute_of_toUri? hguri) (Path.parts_eq_of_toUri? (huri ▸ hfuri) hguri)
  rw [htext, htext'] at hsame
  rw [hftext, hgtext, Option.some.inj hsame]

/-- **What two folders both list**: one of them lies in the other one, and these are the files that
the outer one lists below the inner one. -/
theorem mem_listed_both_iff (hw : w.tree.top.WellFormed) {r r' : Path}
    (hr : r = standardInput ∨ ∃ place, w.tree.place r = .ok place)
    (hr' : r' = standardInput ∨ ∃ place, w.tree.place r' = .ok place) (u : Uri) :
    u ∈ w.listed r ∧ u ∈ w.listed r' ↔
      (r.parts <+: r'.parts ∧ u ∈ w.listed r ∧ r'.Holds u) ∨
        (r'.parts <+: r.parts ∧ u ∈ w.listed r' ∧ r.Holds u) := by
  -- a folder in one that lists something is absolute, hence not standard input
  have hleads {outer inner : Path}
      (hinner : inner = standardInput ∨ ∃ place, w.tree.place inner = .ok place)
      (hnested : outer.parts <+: inner.parts) (hu : u ∈ w.listed outer) :
      ∃ place, w.tree.place inner = .ok place := by
    refine hinner.resolve_left ?_
    rintro rfl
    have houter := (Path.isAbsolute_iff outer).mp (holds_of_mem_listed hw hu).2
    exact absurd ((Path.isAbsolute_iff standardInput).mpr (houter.trans hnested)) (by decide)
  constructor
  · rintro ⟨hu, hu'⟩
    obtain ⟨⟨p, hp, hbelow⟩, -⟩ := holds_of_mem_listed hw hu
    obtain ⟨⟨q, hq, hbelow'⟩, -⟩ := holds_of_mem_listed hw hu'
    rw [hp] at hq
    cases hq
    rcases List.prefix_or_prefix_of_prefix hbelow hbelow' with hnested | hnested
    · exact .inl ⟨hnested, hu, p, hp, hbelow'⟩
    · exact .inr ⟨hnested, hu', p, hp, hbelow⟩
  · rintro (⟨hnested, hu, hholds⟩ | ⟨hnested, hu', hholds⟩)
    · obtain ⟨place, hplace⟩ := hleads hr' hnested hu
      exact ⟨hu, mem_listed_of_holds hw hplace hnested hu hholds⟩
    · obtain ⟨place, hplace⟩ := hleads hr hnested hu'
      exact ⟨mem_listed_of_holds hw hplace hnested hu' hholds, hu'⟩

/-- No file is listed twice if no two folders list one, and only then. -/
theorem nodup_map_uri_iff (hw : w.tree.top.WellFormed) (hfiles : w.provider.allFiles = .ok files) :
    (files.map (·.uri)).Nodup ↔
      w.roots.Pairwise fun r r' => (w.listed r).Disjoint (w.listed r') := by
  rw [(map_uri_perm hfiles).nodup_iff, List.nodup_flatMap]
  exact ⟨fun h => h.2, fun h => ⟨fun root _ => nodup_listed hw root, h⟩⟩

end Workspace

end Disk

/-- **Every file is listed once for each folder that it is found in.** For any tree as a file system
has it, and any folders:
* the workspace is listed if each of the folders leads somewhere, and only then;
* a folder on its own lists the source files with a text that a walk from it gets to;
* files are listed in the order of their paths;
* an identifier is listed as often as there are folders that list it on their own, so no file is
  listed twice if no two folders list one, and only then;
* what two folders both list is what one of them lists below the other one, which lies in it;
* in any run, indexing the workspace leaves no two declarations at one place if every file that does
  not wait and declares something is listed by one folder only, and only then; nor does it leave two
  at one location then, if all texts have less than `2 ^ 32` code units. -/
theorem listing_counts_folders (w : Disk.Workspace) (hw : w.tree.top.WellFormed) :
    ((∃ files, w.provider.allFiles = .ok files) ↔ ∀ root ∈ w.roots,
      root = Disk.Workspace.standardInput ∨ ∃ place, w.tree.place root = .ok place) ∧
    (∀ root u, u ∈ w.listed root ↔ ∃ place names, w.tree.place root = .ok place ∧
      place.Lists names ∧ w.isSource (root.descend names) = true ∧
        (root.descend names).toUri? = some u ∧
          ∃ text, w.tree.readText? (root.descend names) = some text) ∧
    ∀ files, w.provider.allFiles = .ok files →
      (files.Pairwise fun f g => ∃ p q, Disk.Path.ofUri? f.uri = some p ∧
        Disk.Path.ofUri? g.uri = some q ∧ p.le q = true) ∧
      (∀ u, (files.map (·.uri)).count u = w.roots.countP fun root => u ∈ w.listed root) ∧
      ((files.map (·.uri)).Nodup ↔
        w.roots.Pairwise fun r r' => (w.listed r).Disjoint (w.listed r')) ∧
      (∀ r ∈ w.roots, ∀ r' ∈ w.roots, ∀ u, u ∈ w.listed r ∧ u ∈ w.listed r' ↔
        (r.parts <+: r'.parts ∧ u ∈ w.listed r ∧ r'.Holds u) ∨
          (r'.parts <+: r.parts ∧ u ∈ w.listed r' ∧ r.Holds u)) ∧
      ∀ window grace ops,
        let s := (Service.start window grace).run ops
        let after := (s.indexAll w.provider).2
        let once := ∀ f ∈ files, s.pending.word? f.uri = none → f.declarations ≠ [] →
          (w.roots.countP fun root => f.uri ∈ w.listed root) = 1
        ((after.index.declarations.map (·.place)).Nodup ↔ once) ∧
          ((∀ f ∈ files ++ s.pending.fileList, f.Short) →
            ((after.index.declarations.map fun d => (d.uri, d.location)).Nodup ↔ once)) := by
  refine ⟨Disk.Workspace.exists_allFiles_iff, fun root u => ?_, fun files hfiles => ?_⟩
  · simp only [Disk.Workspace.mem_listed_iff hw, Disk.Workspace.listedAs?_eq_some_iff]
  have hleads := Disk.Workspace.exists_allFiles_iff.mp ⟨files, hfiles⟩
  have hcount := Disk.Workspace.count_map_uri hw hfiles
  refine ⟨Disk.Workspace.ascending_allFiles hfiles, hcount,
    Disk.Workspace.nodup_map_uri_iff hw hfiles, ?_, ?_⟩
  · intro r hr r' hr'
    exact Disk.Workspace.mem_listed_both_iff hw (hleads r hr) (hleads r' hr')
  · intro window grace ops s after once
    have hstart : (Service.start window grace).pending.Sound := Batch.Sound.empty
    have hsound : s.pending.Sound := Service.sound_pending_run hstart ops
    have honce : (after.index.declarations.map (·.place)).Nodup ↔ once := by
      simp only [once, ← hcount]
      refine Service.nodup_places_indexAll_iff hsound hfiles fun f hf g hg => ?_
      exact Disk.Workspace.contents_eq_of_uri_eq hfiles hf hg
    refine ⟨honce, fun hshort => ?_⟩
    rw [← honce, List.map_congr_left fun d hd => ?_]
    rw [Service.location_eq_of_mem_indexAll hfiles hshort hd, Declaration.place]

/-- A folder lies in another one, which passes over it as its name is hidden. So its file is listed
once, and everything is indexed once. -/
theorem listing_counts_folders_hidden :
    let tree := (Disk.FileTree.emptyAt [.ofString "W"]).put [.ofString ".h", .ofString "A.scala"]
      (.file (Text.toUtf8 "class Foo".toList))
    let w : Disk.Workspace := ⟨tree, [.ofString "/W", .ofString "/W/.h"], ["scala"]⟩
    let f : FileEntry := ⟨⟨"file:///W/.h/A.scala"⟩, ".h/A.scala", "class Foo"⟩
    w.tree.top.WellFormed ∧ w.provider.allFiles = .ok [f] ∧
      (((Service.start 150 500).indexAll w.provider).2.index.declarations.map
        fun d => (d.uri, d.location)).Nodup := by
  intro tree w f
  have hwell : w.tree.top.WellFormed :=
    .put (.file _) (by decide) (.put .empty (by decide) .empty)
  have hfiles : w.provider.allFiles = .ok [f] := by decide +kernel
  obtain ⟨-, -, hlisting⟩ := listing_counts_folders w hwell
  obtain ⟨-, hcount, -, -, hindex⟩ := hlisting [f] hfiles
  refine ⟨hwell, hfiles, ((hindex 150 500 []).2 (by decide)).mpr fun g hg _ _ => ?_⟩
  rw [← hcount, List.mem_singleton.mp hg]
  exact List.count_singleton_self

/-- A folder that lies in another one: the file in it is listed for both, and the class that it
declares is indexed twice. -/
theorem nested_folders_list_twice :
    let tree := (Disk.FileTree.emptyAt [.ofString "W"]).put [.ofString "src", .ofString "A.scala"]
      (.file (Text.toUtf8 "class Foo".toList))
    let w : Disk.Workspace := ⟨tree, [.ofString "/W", .ofString "/W/src"], ["scala"]⟩
    let f : FileEntry := ⟨⟨"file:///W/src/A.scala"⟩, "src/A.scala", "class Foo"⟩
    let d : Declaration := ⟨"Foo", .classLike, f.source, ⟨0, 6⟩⟩
    w.provider.allFiles = .ok [f, f] ∧
      ((Service.start 150 500).indexAll w.provider).2.index.declarations = [d, d] := by
  intro tree w f d
  have hfiles : w.provider.allFiles = .ok [f, f] := by
    let p : Disk.Path := .ofString "/W/src/A.scala"
    have hbelow : w.roots.mapM w.pathsBelow = .ok [[p], [p]] := by decide +kernel
    have hsorted : [p, p].mergeSort Disk.Path.le = [p, p] :=
      List.mergeSort_of_pairwise (by decide +kernel)
    refine Disk.Workspace.allFiles_eq_ok_iff.mpr ⟨[[p], [p]], mapM_eq_ok_iff.mp hbelow, ?_⟩
    change _ = ([p, p].mergeSort Disk.Path.le).filterMap w.read?
    rw [hsorted]
    decide +kernel
  refine ⟨hfiles, ?_⟩
  have hindex : ((Service.start 150 500).indexAll w.provider).2.index = .ofFiles [f, f] := by
    simp only [Service.indexAll, hfiles]
    rfl
  have hfiled : SymbolIndex.ofFiles [f, f] = SymbolIndex.ofDeclarations [d, d] :=
    congrArg _ (show declarationsIn [f, f] = [d, d] by decide +kernel)
  have hsorted : SymbolIndex.sorted [d, d] = [d, d] :=
    SymbolIndex.sorted_eq_self (by decide +kernel)
  have hdrained : (SymbolIndex.ofDeclarations [d, d]).drained = [d, d] := by
    rw [SymbolIndex.drained, SymbolIndex.ofDeclarations, hsorted]
    decide +kernel
  rw [hindex, hfiled, SymbolIndex.declarations, hdrained, hsorted]

end SymbolAtlas
