import Mathlib.Data.List.Basic
import Mathlib.Tactic.Tauto
import SymbolAtlas.Editor.Session
import SymbolAtlas.Proofs.DrainOrder
import SymbolAtlas.Proofs.Inquiries
import SymbolAtlas.Proofs.TextEdits

/-!
# Links and locations

A request for hover text and one for definitions look the same declarations up, but show them in two
orders: locations come in the order of the index, by file, column and line, and links in the order
of reading, by file, line and column. The two orders are one, seen from declarations whose line and
column have changed places. So whatever is known about sorting for the index holds for the links.

The first of two such requests may fetch the text that the second one finds in the cache. For the
second one the same file is there, hence it gets the same answer as if it had come first.

## Main results

* `Declaration.readingLE_transposed`: the two orders.
* `Editor.readingOrdered_inReadingOrder`: what the order of links is.
* `Editor.hoverText?_eq_of_perm`: links do not show the order in which declarations were found.
* `Editor.Session.answer_definition`, `Editor.Session.answer_hover`: the answers to the requests.
* `Editor.hover_links_definitions`: both requests, in any state, one after the other.
-/

namespace SymbolAtlas

/-! ### The order of reading -/

namespace Declaration

/-- The declaration with line and column in each other's place. -/
def transposed (d : Declaration) : Declaration :=
  { d with position := ⟨d.position.character, d.position.line⟩ }

theorem transposed_transposed (d : Declaration) : d.transposed.transposed = d := rfl

/-- **The order of reading** is the order of the index for transposed declarations. -/
theorem readingLE_transposed (a b : Declaration) :
    a.readingLE b = a.transposed.indexLE b.transposed := rfl

/-- The order of reading is by file, then by line, then by column, for declarations that are located
where they stand. -/
theorem position_le_of_readingLE {a b : Declaration} (ha : a.location = a.position)
    (hb : b.location = b.position) (h : a.readingLE b = true) :
    a.uri < b.uri ∨ (a.uri = b.uri ∧ (a.position.line < b.position.line ∨
      (a.position.line = b.position.line ∧ a.position.character ≤ b.position.character))) := by
  rw [readingLE_transposed] at h
  have hle : a.uri < b.uri ∨ (a.uri = b.uri ∧ (a.location.line < b.location.line ∨
      (a.location.line = b.location.line ∧ a.location.character ≤ b.location.character))) :=
    location_le_of_indexLE h
  rwa [ha, hb] at hle

theorem place_transposed (d : Declaration) (u : Uri) (position : Position) :
    d.transposed.place = (u, ⟨position.character, position.line⟩) ↔ d.place = (u, position) := by
  obtain ⟨-, -, ⟨v, -⟩, ⟨line, character⟩⟩ := d
  obtain ⟨line', character'⟩ := position
  simp only [place, transposed, Prod.mk.injEq, Position.mk.injEq]
  tauto

end Declaration

namespace Editor

open SymbolIndex

/-- Sorting for reading is sorting transposed declarations for the index. -/
theorem map_transposed_inReadingOrder (ds : List Declaration) :
    (inReadingOrder ds).map Declaration.transposed = sorted (ds.map Declaration.transposed) :=
  List.map_mergeSort fun a _ b _ => Declaration.readingLE_transposed a b

theorem inReadingOrder_eq (ds : List Declaration) :
    inReadingOrder ds = (sorted (ds.map Declaration.transposed)).map Declaration.transposed := by
  have hself : Declaration.transposed ∘ Declaration.transposed = id :=
    funext Declaration.transposed_transposed
  rw [← map_transposed_inReadingOrder, List.map_map, hself, List.map_id]

theorem atPlace_map_transposed (ds : List Declaration) (u : Uri) (position : Position) :
    atPlace (ds.map Declaration.transposed) (u, ⟨position.character, position.line⟩) =
      (atPlace ds (u, position)).map Declaration.transposed := by
  rw [atPlace, List.filter_map, atPlace]
  refine congrArg _ (List.filter_congr fun d _ => ?_)
  rw [Bool.eq_iff_iff, Function.comp_apply, beq_iff_eq, beq_iff_eq, Declaration.place_transposed]

/-- The declarations `shown` are those of `found` in the order of reading: by file, then by line,
then by column, and at one place in the order in which they were found. -/
structure ReadingOrdered (found shown : List Declaration) : Prop where
  perm : shown.Perm found
  ascending : shown.Pairwise fun a b => a.uri < b.uri ∨ (a.uri = b.uri ∧
    (a.position.line < b.position.line ∨
      (a.position.line = b.position.line ∧ a.position.character ≤ b.position.character)))
  ties : ∀ place, atPlace shown place = atPlace found place

/-- **Links are in the order of reading**, if the declarations are located where they stand. -/
theorem readingOrdered_inReadingOrder {ds : List Declaration}
    (hlocated : ∀ d ∈ ds, d.location = d.position) : ReadingOrdered ds (inReadingOrder ds) := by
  have hperm : (inReadingOrder ds).Perm ds := List.mergeSort_perm ds _
  refine ⟨hperm, ?_, ?_⟩
  · have hsorted := pairwise_sorted (ds.map Declaration.transposed)
    rw [← map_transposed_inReadingOrder, List.pairwise_map] at hsorted
    refine hsorted.imp_of_mem fun {a b} ha hb hab => ?_
    rw [← Declaration.readingLE_transposed] at hab
    exact Declaration.position_le_of_readingLE (hlocated a (hperm.mem_iff.mp ha))
      (hlocated b (hperm.mem_iff.mp hb)) hab
  · rintro ⟨u, position⟩
    have hinjective : Function.Injective Declaration.transposed :=
      Function.LeftInverse.injective Declaration.transposed_transposed
    refine List.map_injective_iff.mpr hinjective ?_
    rw [← atPlace_map_transposed, ← atPlace_map_transposed, map_transposed_inReadingOrder,
      atPlace_sorted]

/-- **Links do not show the order** in which declarations at different places were found. -/
theorem hoverText?_eq_of_perm {ds es : List Declaration} (hperm : ds.Perm es)
    (hplaces : (ds.map (·.place)).Nodup) : hoverText? ds = hoverText? es := by
  have htransposed : ((ds.map Declaration.transposed).map (·.place)).Nodup := by
    rw [List.map_map]
    refine List.pairwise_map.mpr ((List.pairwise_map.mp hplaces).imp fun {a b} hne heq => hne ?_)
    exact (Declaration.place_transposed a b.uri b.position).mp heq
  have hsorted : inReadingOrder ds = inReadingOrder es := by
    rw [inReadingOrder_eq, inReadingOrder_eq, sorted_eq_of_perm (hperm.map _) htransposed]
  have hempty : ds.isEmpty = es.isEmpty := by
    rw [Bool.eq_iff_iff, List.isEmpty_iff, List.isEmpty_iff]
    exact ⟨fun h => (h ▸ hperm).symm.eq_nil, fun h => (h ▸ hperm).eq_nil⟩
  rw [hoverText?, hoverText?, hsorted, hempty]

/-- Whatever a look-up shows is one of the declarations. -/
theorem mem_declarations_of_mem_lookup {index : SymbolIndex} {key : String} {d : Declaration}
    (h : d ∈ index.lookup key) : d ∈ index.declarations := by
  refine (sorted_perm _).mem_iff.mpr ?_
  rw [lookup] at h
  cases hbucket : index.buckets.find? (fun b => b.1 == key) with
  | none =>
      rw [hbucket] at h
      cases h
  | some bucket =>
      rw [hbucket] at h
      exact List.mem_flatMap.mpr ⟨bucket, List.mem_of_find?_eq_some hbucket, h⟩

/-! ### What an editor reads -/

/-- The line of Markdown that links to a declaration. Lines count from one and columns from zero. -/
def linkLine (path : String) (u : Uri) (position : Position) : String :=
  let place := toString (position.line + 1) ++ "," ++ toString position.character
  "[" ++ path ++ ":" ++ place ++ "](" ++ u.text ++ "#L" ++ place ++ ")  "

namespace Reader

/-- A location that is a point. -/
def point : Reader (Uri × Position) := fun j => do
  let r ← Record.ofObject j
  let u ← r.field "uri" text
  let (start, finish) ← r.field "range" range
  if start = finish then some (⟨u⟩, start) else none

/-- A text of Markdown to show. -/
def markdown : Reader String := fun j => do
  let r ← Record.ofObject j
  let contents ← r.field "contents" Record.ofObject
  let kind ← contents.field "kind" text
  if kind = "markdown" then contents.field "value" text else none

end Reader

/-- The numbers of the declaration are such that an editor can read them, also with the line counted
from one. -/
def Countable (d : Declaration) : Prop :=
  d.position.line + 1 < Number.words32 ∧ d.position.character < Number.words32

/-- A declaration whose numbers can be read is located where it stands. -/
theorem Countable.location_eq {d : Declaration} (h : Countable d) : d.location = d.position :=
  Position.stored_eq_self (Nat.lt_of_succ_lt h.1) h.2

theorem link_eq {d : Declaration} (h : Countable d) :
    link d = linkLine d.file.relativePath d.uri d.position := by
  rw [link, h.location_eq, linkLine]

/-- A point is read from its identifier and its range. -/
theorem read_point (u : String) (place : Json) :
    Reader.point (.obj [("uri", .str u), ("range", place)]) =
      (Reader.range place).bind fun r => if r.1 = r.2 then some (⟨u⟩, r.1) else none := by
  have huri := field?_first (show "uri" ≠ "range" by decide) (.str u) place
  have hrange := field?_second "uri" "range" (.str u) place
  simp only [Reader.point, Record.ofObject, Option.bind_eq_bind, Option.bind_some, Record.field,
    Record.get, Record.value?, huri, hrange]
  cases Reader.range place <;> rfl

/-- The location of a declaration is read as its place. -/
theorem read_location {d : Declaration} (h : Countable d) :
    Reader.point (location d) = some d.place := by
  have hline : d.position.line < Number.words32 := Nat.lt_of_succ_lt h.1
  have hposition : Reader.position (position d.position.line d.position.character) =
      some d.position := by
    rw [position, read_position, read_nat, read_nat, if_pos hline, if_pos h.2]
    rfl
  rw [location, h.location_eq, read_point, read_range, hposition]
  exact if_pos rfl

theorem read_locations {ds : List Declaration} (h : ∀ d ∈ ds, Countable d) :
    Reader.list Reader.point (.arr (ds.map location)) = some (ds.map (·.place)) := by
  change (ds.map location).mapM Reader.point = _
  induction ds with
  | nil => rfl
  | cons d ds ih =>
      obtain ⟨hd, hds⟩ := List.forall_mem_cons.mp h
      rw [List.map_cons, List.mapM_cons, read_location hd, ih hds]
      rfl

/-! ### Sessions -/

namespace Session

/-- What a session keeps when the journal of its service is made known. -/
structure SameServer (s t : Session) : Prop where
  features : t.features = s.features
  indexing : t.indexing = s.indexing
  roots : t.roots = s.roots
  service : t.service = s.service

theorem SameServer.trans {s t r : Session} (h : SameServer s t) (h' : SameServer t r) :
    SameServer s r :=
  ⟨h'.features.trans h.features, h'.indexing.trans h.indexing, h'.roots.trans h.roots,
    h'.service.trans h.service⟩

theorem sameServer_publish (s : Session) (note : Note) : SameServer s (s.publish note) := by
  cases note with
  | finished work => exact ⟨rfl, rfl, rfl, rfl⟩
  | asked call =>
      simp only [publish]
      split <;> exact ⟨rfl, rfl, rfl, rfl⟩

/-- **A session takes over its service**, with an empty journal, and keeps all else that answers
depend on. -/
theorem sameServer_withService (s : Session) (service : Service) :
    SameServer { s with service := { service with journal := [] } } (s.withService service) := by
  have hfold (notes : List Note) (t : Session) : SameServer t (notes.foldl publish t) := by
    induction notes generalizing t with
    | nil => exact ⟨rfl, rfl, rfl, rfl⟩
    | cons note notes ih => exact (sameServer_publish t note).trans (ih (t.publish note))
  exact hfold service.journal _

/-- Files come from the same place as before. -/
theorem provider_withService (s : Session) (service : Service) (w : World) :
    (s.withService service).provider w = s.provider w := by
  obtain ⟨-, hindexing, hroots, -⟩ := s.sameServer_withService service
  simp only [provider, hindexing, hroots]

/-- The declarations that a request for a position is about. -/
def found (s : Session) (w : World) (u : Uri) (position : Position) : List Declaration :=
  Inquiry.declarationsIn? s.service.index (s.service.files.available? (s.provider w) u) u position

/-- The answer with locations. -/
def locations (ds : List Declaration) : Json :=
  if ds.isEmpty then .null else .arr (ds.map location)

/-- The answer with links. -/
def links (ds : List Declaration) : Json :=
  match hoverText? ds with
  | some text => .obj [("contents", .obj [("kind", .str "markdown"), ("value", .str text)])]
  | none => .null

variable (s : Session) (w : World) (u : Uri) (position : Position)

theorem answer_definition :
    s.answer w (.definition u position) = (.ok (locations (s.found w u position)),
      s.withService (s.service.definition (s.provider w) u position).2) := by
  rw [found, ← Service.lookupAt_fst _ _ "definition"]
  rfl

theorem answer_hover (henabled : s.features.hoverEnabled = true) :
    s.answer w (.hover u position) = (.ok (links (s.found w u position)),
      s.withService (s.service.hover (s.provider w) u position).2) := by
  rw [found, ← Service.lookupAt_fst _ _ "hover"]
  simp only [answer, henabled, if_true]
  rfl

/-- **After a look-up the same declarations are found.** -/
theorem found_withService (action : String) :
    (s.withService (s.service.lookupAt (s.provider w) action u position).2).found w u position =
      s.found w u position := by
  let service := (s.service.lookupAt (s.provider w) action u position).2
  obtain ⟨-, -, -, hservice⟩ := s.sameServer_withService service
  have hfiles : service.files = (s.service.files.get (s.provider w) u).store := rfl
  have hfile : service.files.available? (s.provider w) u =
      s.service.files.available? (s.provider w) u := by
    rw [FileStore.available?, hfiles, FileStore.cached?_store_get, if_pos rfl, Option.or_assoc,
      Option.or_self, FileStore.available?]
  rw [found, provider_withService, hservice]
  change Inquiry.declarationsIn? service.index (service.files.available? _ u) u position = _
  rw [hfile, found]
  rfl

/-- What is found is filed under one key, and listed in the order of the index. -/
theorem exists_found_sublist :
    ∃ key, (s.found w u position).Sublist (s.service.index.lookup key) := by
  rw [found, Inquiry.declarationsIn?]
  split
  next text _ =>
    refine ⟨(Term.scan text position.character).key, ?_⟩
    rw [SymbolIndex.named]
    split
    · exact List.nil_sublist _
    · exact List.filter_sublist
  next => exact ⟨"", List.nil_sublist _⟩

end Session

/-- **Hover text and definitions show the same declarations.** In any state of a session with hover
enabled, and for any position:
* of a request for hover text and one for definitions, in either order, each gets the answer that it
  would get without the other;
* both answers are null if no declaration is found for the term at the position, and otherwise
  neither is. Then an editor reads the places of the declarations from the one, in the order of the
  index, and from the other a text that consists of a link to each of them, one below the other, by
  file, line and column, and in the order of the index at one place.

Moreover the text with the links does not depend on the order of declarations at different
places. -/
theorem hover_links_definitions (s : Session) (w : World) (u : Uri) (position : Position)
    (henabled : s.features.hoverEnabled = true)
    (hcountable : ∀ d ∈ s.service.index.declarations, Countable d) :
    let hover := s.answer w (.hover u position)
    let definition := s.answer w (.definition u position)
    let found := s.found w u position
    ((hover.2.answer w (.definition u position)).1 = definition.1 ∧
      (definition.2.answer w (.hover u position)).1 = hover.1) ∧
    (found = [] → hover.1 = .ok .null ∧ definition.1 = .ok .null) ∧
    (found ≠ [] → (∃ key, found.Sublist (s.service.index.lookup key)) ∧
      ∃ shown listed ordered, hover.1 = .ok shown ∧ definition.1 = .ok listed ∧
        shown ≠ .null ∧ listed ≠ .null ∧ ReadingOrdered found ordered ∧
        Reader.list Reader.point listed = some (found.map (·.place)) ∧
        Reader.markdown shown = some ("\n".intercalate
          (ordered.map fun d => linkLine d.file.relativePath d.uri d.position))) ∧
    ∀ ds es : List Declaration, ds.Perm es → (ds.map (·.place)).Nodup →
      hoverText? ds = hoverText? es := by
  intro hover definition found
  have hhover := s.answer_hover w u position henabled
  have hdefinition := s.answer_definition w u position
  have hshown : hover.1 = .ok (Session.links found) := congrArg Prod.fst hhover
  have hlisted : definition.1 = .ok (Session.locations found) := congrArg Prod.fst hdefinition
  refine ⟨⟨?_, ?_⟩, ?_, ?_, fun ds es => hoverText?_eq_of_perm⟩
  · -- the definitions after the hover text
    have hsame := s.found_withService w u position "hover"
    change ((s.answer w (.hover u position)).2.answer w (.definition u position)).1 =
      (s.answer w (.definition u position)).1
    rw [hhover, hdefinition, Session.answer_definition]
    exact congrArg (fun ds => Except.ok (Session.locations ds)) hsame
  · -- the hover text after the definitions
    have hsame := s.found_withService w u position "definition"
    have hstill := (s.sameServer_withService
      (s.service.definition (s.provider w) u position).2).features
    change ((s.answer w (.definition u position)).2.answer w (.hover u position)).1 =
      (s.answer w (.hover u position)).1
    rw [hhover, hdefinition, Session.answer_hover _ _ _ _ (by rw [hstill]; exact henabled)]
    exact congrArg (fun ds => Except.ok (Session.links ds)) hsame
  · intro hnone
    rw [hshown, hlisted, hnone]
    exact ⟨rfl, rfl⟩
  · intro hsome
    obtain ⟨key, hsub⟩ := s.exists_found_sublist w u position
    have hempty : found.isEmpty = false := by simpa using hsome
    have hlinks : Session.links found = .obj [("contents", .obj [("kind", .str "markdown"),
        ("value", .str ("\n".intercalate ((inReadingOrder found).map link)))])] := by
      rw [Session.links, hoverText?, hempty]
      rfl
    have hlocations : Session.locations found = .arr (found.map location) := by
      rw [Session.locations, hempty]
      rfl
    rw [hlinks] at hshown
    rw [hlocations] at hlisted
    have hfound (d : Declaration) (hd : d ∈ found) : Countable d :=
      hcountable d (mem_declarations_of_mem_lookup (hsub.subset hd))
    have hordered : ReadingOrdered found (inReadingOrder found) :=
      readingOrdered_inReadingOrder fun d hd => (hfound d hd).location_eq
    refine ⟨⟨key, hsub⟩, _, _, inReadingOrder found, hshown, hlisted, nofun, nofun, hordered,
      read_locations hfound, ?_⟩
    have hlines : (inReadingOrder found).map link = (inReadingOrder found).map fun d =>
        linkLine d.file.relativePath d.uri d.position :=
      List.map_congr_left fun d hd => link_eq (hfound d ((List.mergeSort_perm _ _).mem_iff.mp hd))
    rw [← hlines]
    rfl

/-- The text under the cursor is read from disk for the first request. The declarations that both
requests find stand in one order by column and in the other one by line. -/
theorem hover_links_definitions_fetched :
    let u : Uri := ⟨"file:///W/B.scala"⟩
    let f : FileEntry := ⟨⟨"file:///a"⟩, "a", "    class Foo\nclass Foo"⟩
    let tree := (Disk.FileTree.emptyAt [.ofString "W"]).put [.ofString "B.scala"]
      (.file (Text.toUtf8 "new Foo".toList))
    let w : World := ⟨fun _ _ => .error "", tree⟩
    let s : Session := { Session.start ⟨⟨true, true⟩, ⟨150, 500, .disk, ["scala"]⟩⟩ with
      service := ((Service.start 150 500).indexFiles [f]).2 }
    let above : Declaration := ⟨"Foo", .classLike, f.source, ⟨0, 10⟩⟩
    let below : Declaration := ⟨"Foo", .classLike, f.source, ⟨1, 6⟩⟩
    let text := "[a:1,10](file:///a#L1,10)  \n[a:2,6](file:///a#L2,6)  "
    let hover := s.answer w (.hover u ⟨0, 4⟩)
    (s.features.hoverEnabled = true ∧ s.service.index.declarations = [below, above]) ∧
      hover.1 = .ok (.obj [("contents", .obj [("kind", .str "markdown"), ("value", .str text)])]) ∧
      (hover.2.answer w (.definition u ⟨0, 4⟩)).1 =
        .ok (.arr [location below, location above]) := by
  intro u f tree w s above below text hover
  let g : FileEntry := ⟨u, "/W/B.scala", "new Foo"⟩
  have henabled : s.features.hoverEnabled = true := rfl
  have hindex : s.service.index = ofDeclarations [above, below] := by
    have hdeclares : declarationsIn [f] = [above, below] := by decide +kernel
    change ofFiles [f] = _
    rw [ofFiles, hdeclares]
  have hplaces : ([above, below].map (·.place)).Nodup := by decide
  have hsorted : [below, above] = sorted [above, below] :=
    eq_sorted_of_perm (by decide) hplaces (by decide +kernel)
  have hindexed : s.service.index.declarations = [below, above] := by
    rw [hindex, declarations_ofDeclarations hplaces, hsorted]
  have hfile : s.service.files.available? (s.provider w) u = some g := by
    have hfiles : (s.provider w).files [u] = .ok [g] := by decide +kernel
    have hserved : (s.provider w).file? u = some g := by
      rw [Provider.file?, hfiles]
      rfl
    rw [FileStore.available?, hserved]
    rfl
  have hfound : s.found w u ⟨0, 4⟩ = [below, above] := by
    have hline : g.line? 0 = some "new Foo".toList := by decide
    have hterm : Term.scan "new Foo".toList 4 = ⟨"Foo", 4, 6⟩ := by decide
    rw [Session.found, hfile, hindex, Inquiry.declarationsIn?, Option.bind_some, hline]
    change (ofDeclarations [above, below]).named u 0 (Term.scan "new Foo".toList 4) = _
    rw [hterm, named, lookup_ofDeclarations, ← hsorted]
    decide +kernel
  have hcountable : ∀ d ∈ s.service.index.declarations, Countable d := by
    rw [hindexed]
    exact List.forall_mem_cons.mpr ⟨⟨by decide, by decide⟩,
      List.forall_mem_singleton.mpr ⟨by decide, by decide⟩⟩
  obtain ⟨⟨hdefinition, -⟩, -, -, -⟩ :=
    hover_links_definitions s w u ⟨0, 4⟩ henabled hcountable
  refine ⟨⟨henabled, hindexed⟩, ?_, hdefinition.trans ?_⟩
  · have htext : hoverText? [below, above] = some text := by
      have hshown : inReadingOrder [above, below] = [above, below] :=
        List.mergeSort_of_pairwise (by decide +kernel)
      rw [hoverText?_eq_of_perm (.swap above below []) (by decide), hoverText?, hshown]
      decide +kernel
    change (s.answer w (.hover u ⟨0, 4⟩)).1 = _
    rw [Session.answer_hover s w u ⟨0, 4⟩ henabled, hfound, Session.links, htext]
  · rw [Session.answer_definition s w u ⟨0, 4⟩, hfound]
    rfl

end Editor

end SymbolAtlas
