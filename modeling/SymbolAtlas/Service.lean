import SymbolAtlas.Analytics
import SymbolAtlas.Imports
import SymbolAtlas.Lookup
import SymbolAtlas.Scheduler

/-!
# The symbol service

The service owns the index, the store of known files and the scheduler. Edits go through the
scheduler and reach the index when things are quiet; indexing on demand applies at once and takes
what waits along. Look-ups never fail: where a text is missing the result is empty.

The service keeps a journal of the questions it put to the provider and of the work it finished.
-/

namespace SymbolAtlas

/-- What happened to a file on disk. -/
inductive Change where
  | created | changed | deleted
  deriving DecidableEq, Repr

/-- An entry of the journal. -/
inductive Note where
  | asked (call : Call)
  | finished (work : Measurement)
  deriving DecidableEq, Repr

/-- The usual length of the quiet window in milliseconds. -/
def usualWindow : Nat := 150

/-- The usual grace period of an edited file in milliseconds. -/
def usualGrace : Nat := 500

/-- The state of the service. -/
structure Service where
  index : SymbolIndex
  files : FileStore
  scheduler : Scheduler
  /-- Oldest entry first. -/
  journal : List Note

namespace Service

/-- A service that has seen nothing. -/
def start (window grace : Nat) : Service := ⟨.empty, .empty grace, .start window, []⟩

/-- The time of the service's clock. -/
def now (s : Service) : Nat := s.scheduler.now

/-- Notes questions in the journal. -/
def noteCalls (s : Service) (calls : List Call) : Service :=
  { s with journal := s.journal ++ calls.map .asked }

/-- Notes finished work in the journal. -/
def noteWork (s : Service) (category action : String) (results : Nat) : Service :=
  { s with journal := s.journal ++ [.finished ⟨category, action, some results⟩] }

/-- Takes over what a fetch left behind. -/
def absorb {α : Type} (s : Service) (fetched : Fetched α) : Service :=
  { s with files := fetched.store }.noteCalls fetched.calls

/-! ### Changing the index -/

/-- Applies new texts and deletions to the cache and the index. -/
def applyUpdate (s : Service) (files : List FileEntry) (deleted : List Uri) : Service :=
  let index := s.index.update files deleted
  { s with files := (s.files.update files).remove deleted, index }.noteWork
    "action" "indexChanged" index.snapshot.length

/-- Applies a batch. -/
def applyBatch (s : Service) (b : Batch) : Service := s.applyUpdate b.fileList b.deletedList

/-- Applies a batch if there is one. -/
def applyBatch? (s : Service) (b : Option Batch) : Service :=
  match b with
  | none => s
  | some b => s.applyBatch b

/-- Takes the waiting batch from the scheduler. -/
def takePending (s : Service) : Option Batch × Service :=
  let (batch, scheduler) := s.scheduler.take
  (batch, { s with scheduler })

/-- Indexes the files of the workspace, with the waiting batch folded in: its texts win over the
provider's and its deletions drop the provider's files. -/
def rebuild (s : Service) (files : List FileEntry) (pending : Option Batch) : Service :=
  let batch := pending.getD .empty
  let kept := files.filter fun f => !batch.isDeleted f.uri && (batch.file? f.uri).isNone
  let all := kept ++ batch.fileList
  let index := SymbolIndex.ofFiles all
  { s with files := (s.files.remove batch.deletedList).update all, index }.noteWork
    "action" "indexAll" index.snapshot.length

/-- Indexes the whole workspace anew. If the provider fails, the waiting batch is applied by
itself, so that it is not lost. -/
def indexAll (s : Service) (p : Provider) : Except ProviderError (List Declaration) × Service :=
  let (pending, s) := s.takePending
  let s := s.noteCalls [.allFiles]
  match p.allFiles with
  | .error cause => (.error cause, s.applyBatch? pending)
  | .ok files =>
    let s := s.rebuild files pending
    (.ok s.index.snapshot, s)

/-- Indexes the files at once, together with what waits. -/
def indexFiles (s : Service) (files : List FileEntry) : List Declaration × Service :=
  let (pending, s) := s.takePending
  let s := s.applyBatch ((pending.getD .empty).merge files [])
  (s.index.snapshot, s)

/-! ### Look-ups -/

/-- The declarations for a position, reported as the given kind of look-up. -/
def lookupAt (s : Service) (p : Provider) (action : String) (u : Uri) (position : Position) :
    List Declaration × Service :=
  let fetched := declarationsAt s.index s.files p u position
  let found := match fetched.value with
    | .ok ds => ds
    | .error _ => []
  (found, (s.absorb fetched).noteWork "lookup" action found.length)

/-- The declarations that a term refers to. -/
def definition (s : Service) (p : Provider) (u : Uri) (position : Position) :
    List Declaration × Service :=
  s.lookupAt p "definition" u position

/-- The declarations to show for a term. -/
def hover (s : Service) (p : Provider) (u : Uri) (position : Position) :
    List Declaration × Service :=
  s.lookupAt p "hover" u position

/-- The declarations whose names match a query, best first. -/
def search (s : Service) (query : String) : List Declaration × Service :=
  let found := s.index.search query
  (found, s.noteWork "lookup" "workspaceSymbol" found.length)

/-- The edits that sort the imports of a file. -/
def organizeImports (s : Service) (p : Provider) (u : Uri) : List LineEdit × Service :=
  let fetched := s.files.get p u
  let edits := match fetched.value with
    | .ok f => importEdits f.contents
    | .error _ => []
  (edits, (s.absorb fetched).noteWork "action" "organizeImports" edits.length)

/-! ### News from the editor -/

/-- Puts new texts and deletions in front of the scheduler. -/
def schedule (s : Service) (files : List FileEntry) (deleted : List Uri) : Service :=
  { s with scheduler := s.scheduler.schedule files deleted }

/-- A document was opened: its text is remembered and not indexed. -/
def opened (s : Service) (p : Provider) (u : Uri) (text : String) : Service :=
  let path := s.files.relativePath p u
  let s := s.absorb path
  { s with files := s.files.update [⟨u, path.value, text⟩] }

/-- A document was edited: its text is remembered and waits for the index, and news from disk about
the file is not believed for a while. -/
def changed (s : Service) (p : Provider) (u : Uri) (text : String) : Service :=
  let s := { s with files := s.files.markJustChanged u s.now }
  let path := s.files.relativePath p u
  let s := s.absorb path
  let entry : FileEntry := ⟨u, path.value, text⟩
  { s with files := s.files.update [entry] }.schedule [entry] []

/-- Schedules the answer to a request for files; a failure counts as no files. -/
def scheduleFetched (s : Service) (answer : Except ProviderError (List FileEntry))
    (deleted : List Uri) : Service :=
  match answer with
  | .ok files => s.schedule files deleted
  | .error _ => s.schedule [] deleted

/-- A document was saved, with its text or without. -/
def saved (s : Service) (p : Provider) (u : Uri) : Option String → Service
  | some text => s.changed p u text
  | none => (s.noteCalls [.files [u]]).scheduleFetched (p.files [u]) []

/-- The files to fetch after news from disk: created and changed ones that no editor has just
touched. -/
def toRefetch (s : Service) (changes : List (Uri × Change)) : List Uri :=
  (changes.filter fun c => c.2 != .deleted && !s.files.isJustChanged c.1 s.now).map (·.1)

/-- The files to drop after news from disk. -/
def toDrop (changes : List (Uri × Change)) : List Uri :=
  (changes.filter fun c => c.2 == .deleted).map (·.1)

/-- Files changed on disk. -/
def watched (s : Service) (p : Provider) (changes : List (Uri × Change)) : Service :=
  let refetch := s.toRefetch changes
  if refetch.isEmpty then s.schedule [] (toDrop changes)
  else (s.noteCalls [.files refetch]).scheduleFetched (p.files refetch) (toDrop changes)

/-! ### Time -/

/-- Applies what waits. The answer says whether anything did. -/
def flush (s : Service) : Bool × Service :=
  let (pending, s) := s.takePending
  (pending.isSome, s.applyBatch? pending)

/-- Applies what is due. -/
def settle (s : Service) : Service :=
  let (ripe, scheduler) := s.scheduler.settle
  { s with scheduler }.applyBatch? ripe

/-- Lets time pass. -/
def sleep (s : Service) (ms : Nat) : Service :=
  { s with scheduler := s.scheduler.pass ms }.settle

/-- Applies what waits and stops the timer. -/
def shutdown (s : Service) : Service :=
  let s := s.flush.2
  { s with scheduler := s.scheduler.stop }

/-- The number of indexed declarations. -/
def symbolCount (s : Service) : Nat := s.index.size

/-- Something waits for the index. -/
def hasPending (s : Service) : Bool := s.scheduler.hasPending

/-- The journal, and the service with an empty one. -/
def takeJournal (s : Service) : List Note × Service := (s.journal, { s with journal := [] })

end Service

end SymbolAtlas
