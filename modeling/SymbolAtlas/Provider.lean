import SymbolAtlas.FileEntry
import SymbolAtlas.Uri.Map

/-!
# Where files come from

A provider answers three questions: the files behind some identifiers, all files of the workspace,
and the name of a file within it. Each answer may be a failure. A provider is a value: what it
answers can be different at every step, and it is handed to each operation that asks.
-/

namespace SymbolAtlas

/-- Why a provider gives no answer. -/
inductive ProviderError where
  | request (method message : String)
  | io (path reason : String)
  | walk (reason : String)
  | invalidUri (uri : Uri)
  | notFound (uri : Uri)
  deriving DecidableEq, Repr, Inhabited

/-- The text of a failure. -/
def ProviderError.message : ProviderError → String
  | .request method message => "file request `" ++ method ++ "` failed: " ++ message
  | .io path reason => "I/O error reading " ++ path ++ ": " ++ reason
  | .walk reason => "workspace walk failed: " ++ reason
  | .invalidUri uri => "not a file uri: " ++ uri.text
  | .notFound uri => "file not found: " ++ uri.text

/-- The answers of a provider. -/
structure Provider where
  files : List Uri → Except ProviderError (List FileEntry)
  allFiles : Except ProviderError (List FileEntry)
  relativePath : Uri → Except ProviderError String

/-- A question put to a provider. -/
inductive Call where
  | files (uris : List Uri)
  | allFiles
  | relativePath (uri : Uri)
  deriving DecidableEq, Repr

/-- The text of one file. -/
def Provider.contents (p : Provider) (u : Uri) : Except ProviderError String := do
  match (← p.files [u]).find? fun f => f.uri == u with
  | some f => return f.contents
  | none => throw (.notFound u)

/-- Files kept in memory, which may be out of reach for a while. -/
structure MemoryFiles where
  files : UriMap FileEntry
  failing : Bool

namespace MemoryFiles

/-- The given files, in reach. -/
def of (files : List FileEntry) : MemoryFiles :=
  ⟨files.foldl (fun m f => m.insert f.uri f) .empty, false⟩

/-- Adds or replaces a file. -/
def put (m : MemoryFiles) (f : FileEntry) : MemoryFiles :=
  { m with files := m.files.insert f.uri f }

/-- Removes a file. -/
def delete (m : MemoryFiles) (u : Uri) : MemoryFiles := { m with files := m.files.erase u }

/-- The answer to a question, unless the files are out of reach. -/
def guarded {α : Type} (m : MemoryFiles) (method : String) (answer : Except ProviderError α) :
    Except ProviderError α :=
  if m.failing then .error (.request method "provider offline") else answer

/-- The provider that answers from these files. -/
def provider (m : MemoryFiles) : Provider where
  files uris := m.guarded "getFiles" (.ok (uris.filterMap m.files.get?))
  allFiles := m.guarded "getAllFiles" (.ok m.files.values)
  relativePath u := m.guarded "getRelPath" (match m.files.get? u with
    | some f => .ok f.relativePath
    | none => .error (.notFound u))

end MemoryFiles

end SymbolAtlas
