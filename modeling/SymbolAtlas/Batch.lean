import SymbolAtlas.FileEntry
import SymbolAtlas.Uri.Map

/-!
# Batches of changes

A batch collects the files and the deletions of a burst of changes. It has at most one word on each
file: the last one. A file takes back an earlier deletion and a deletion drops an earlier text.
-/

namespace SymbolAtlas

/-- New texts and deletions, each listed in the order of identifiers. -/
structure Batch where
  files : UriMap FileEntry
  deleted : UriMap Unit

namespace Batch

/-- The batch without changes. -/
def empty : Batch := ⟨.empty, .empty⟩

instance : Inhabited Batch := ⟨empty⟩

/-- The batch after a new text of a file. -/
def addFile (b : Batch) (f : FileEntry) : Batch :=
  ⟨b.files.insert f.uri f, b.deleted.erase f.uri⟩

/-- The batch after the deletion of a file. -/
def addDeletion (b : Batch) (u : Uri) : Batch :=
  ⟨b.files.erase u, b.deleted.insert u ()⟩

/-- The batch after an arrival: first its files, then its deletions, one after the other. -/
def merge (b : Batch) (files : List FileEntry) (deleted : List Uri) : Batch :=
  deleted.foldl addDeletion (files.foldl addFile b)

/-- The batch of one arrival. -/
def of (files : List FileEntry) (deleted : List Uri) : Batch := empty.merge files deleted

/-- The text that the batch holds of a file. -/
def file? (b : Batch) (u : Uri) : Option FileEntry := b.files.get? u

/-- The batch deletes the file. -/
def isDeleted (b : Batch) (u : Uri) : Bool := b.deleted.contains u

/-- The files with new texts, by identifier. -/
def fileList (b : Batch) : List FileEntry := b.files.values

/-- The deleted files, by identifier. -/
def deletedList (b : Batch) : List Uri := b.deleted.keys

/-- The batch holds no change. -/
def isEmpty (b : Batch) : Bool := b.files.isEmpty && b.deleted.isEmpty

end Batch

end SymbolAtlas
