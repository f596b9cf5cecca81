import SymbolAtlas.Extraction
import SymbolAtlas.Search

/-!
# The index

The index files declarations under their keys and keeps, beside the buckets, the sorted list of all
of them for searching. Every change replaces both at once, so a look-up and a search that follow it
see the same generation.
-/

namespace SymbolAtlas

/-- Declarations by key, and the same declarations as one sorted list. -/
structure SymbolIndex where
  buckets : List (String × List Declaration)
  snapshot : List Declaration
  deriving Repr

namespace SymbolIndex

/-- The index without declarations. -/
def empty : SymbolIndex := ⟨[], []⟩

instance : Inhabited SymbolIndex := ⟨empty⟩

/-- Declarations in the order of the index; those at the same place keep their order. -/
def sorted (ds : List Declaration) : List Declaration := ds.mergeSort Declaration.indexLE

/-- Puts a declaration at the end of its bucket. -/
def fileUnder (d : Declaration) :
    List (String × List Declaration) → List (String × List Declaration)
  | [] => [(d.key, [d])]
  | (key, bucket) :: rest =>
    if key = d.key then (key, bucket ++ [d]) :: rest else (key, bucket) :: fileUnder d rest

/-- The buckets of a list of declarations. -/
def bucketsOf (ds : List Declaration) : List (String × List Declaration) :=
  ds.foldl (fun buckets d => fileUnder d buckets) []

/-- The index of the given declarations. -/
def ofDeclarations (ds : List Declaration) : SymbolIndex :=
  ⟨bucketsOf (sorted ds), sorted ds⟩

/-- The index of the given files. -/
def ofFiles (files : List FileEntry) : SymbolIndex := ofDeclarations (declarationsIn files)

/-- All declarations, bucket by bucket. -/
def drained (index : SymbolIndex) : List Declaration := index.buckets.flatMap (·.2)

/-- The index after dropping what the files `files` and the identifiers `removed` declare from
the declarations `old`, and filing what `files` declare now. -/
def updateFrom (old : List Declaration) (files : List FileEntry) (removed : List Uri) :
    SymbolIndex :=
  let stale := files.map (·.uri) ++ removed
  ofDeclarations (old.filter (fun d => !stale.contains d.uri) ++ declarationsIn files)

/-- Replaces the declarations of `files` and drops those of `removed`. -/
def update (index : SymbolIndex) (files : List FileEntry) (removed : List Uri) : SymbolIndex :=
  updateFrom index.drained files removed

/-- The declarations filed under a key. -/
def lookup (index : SymbolIndex) (key : String) : List Declaration :=
  ((index.buckets.find? fun b => b.1 == key).map (·.2)).getD []

/-- The declarations whose identifiers match a query, best first. -/
def search (index : SymbolIndex) (query : String) : List Declaration :=
  SymbolAtlas.search index.snapshot query

/-- All declarations, in the order of the index. -/
def declarations (index : SymbolIndex) : List Declaration := sorted index.drained

/-- The number of declarations. -/
def size (index : SymbolIndex) : Nat :=
  index.buckets.foldr (fun bucket n => bucket.2.length + n) 0

/-- The number of different keys. -/
def keyCount (index : SymbolIndex) : Nat := index.buckets.length

/-- Nothing is filed. -/
def isEmpty (index : SymbolIndex) : Bool := index.buckets.isEmpty

/-- The declarations named like the term, without the one that the term itself belongs to: one that
is located on the same line of the same file, within the term. -/
def named (index : SymbolIndex) (uri : Uri) (line : Nat) (term : Term) : List Declaration :=
  if term.isEmpty then []
  else (index.lookup term.key).filter fun d =>
    !(d.uri == uri && d.location.line == line && term.covers d.location.character)

end SymbolIndex

end SymbolAtlas
