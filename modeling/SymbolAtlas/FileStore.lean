import SymbolAtlas.Provider

/-!
# Known files

The store remembers the texts of files, fetches those it does not know, and remembers for a grace
period which files an editor has just changed.
-/

namespace SymbolAtlas

/-- Why a line cannot be shown. -/
inductive QueryError where
  | contentUnavailable (uri : Uri)
  | lineOutOfRange (uri : Uri) (line : Nat)
  | provider (cause : ProviderError)
  deriving DecidableEq, Repr, Inhabited

/-- The text of a failure. -/
def QueryError.message : QueryError → String
  | .contentUnavailable uri => "content unavailable for " ++ uri.text
  | .lineOutOfRange uri line => "line " ++ toString line ++ " out of range in " ++ uri.text
  | .provider cause => cause.message

/-- Cached files, and the times until which files count as just changed. -/
structure FileStore where
  cache : UriMap FileEntry
  marks : UriMap Nat
  grace : Nat

/-- An answer, the store after giving it, and the questions it took. -/
structure Fetched (α : Type) where
  value : α
  store : FileStore
  calls : List Call

namespace FileStore

/-- The store that knows nothing. -/
def empty (grace : Nat) : FileStore := ⟨.empty, .empty, grace⟩

/-- Remembers the files. -/
def update (s : FileStore) (files : List FileEntry) : FileStore :=
  { s with cache := files.foldl (fun m f => m.insert f.uri f) s.cache }

/-- Forgets the files. -/
def remove (s : FileStore) (uris : List Uri) : FileStore :=
  { s with cache := uris.foldl UriMap.erase s.cache }

/-- The file if it is cached. -/
def cached? (s : FileStore) (u : Uri) : Option FileEntry := s.cache.get? u

/-- The file, from the cache or else from the provider, and then cached. -/
def get (s : FileStore) (p : Provider) (u : Uri) : Fetched (Except QueryError FileEntry) :=
  match s.cached? u with
  | some f => ⟨.ok f, s, []⟩
  | none => match p.files [u] with
    | .error cause => ⟨.error (.provider cause), s, [.files [u]]⟩
    | .ok files => match files.find? fun f => f.uri == u with
      | none => ⟨.error (.contentUnavailable u), s, [.files [u]]⟩
      | some f => ⟨.ok f, s.update [f], [.files [u]]⟩

/-- A line of a file. -/
def line (s : FileStore) (p : Provider) (u : Uri) (n : Nat) :
    Fetched (Except QueryError (List Char)) :=
  let fetched := s.get p u
  let value := do
    let f ← fetched.value
    match f.line? n with
    | some text => .ok text
    | none => .error (.lineOutOfRange u n)
  { fetched with value }

/-- The name of a file in its workspace; if nobody knows it, the path of its identifier without
leading slashes. -/
def relativePath (s : FileStore) (p : Provider) (u : Uri) : Fetched String :=
  match s.cached? u with
  | some f => ⟨f.relativePath, s, []⟩
  | none => match p.relativePath u with
    | .ok path => ⟨path, s, [.relativePath u]⟩
    | .error _ =>
      ⟨String.ofList (u.pathChars.dropWhile (· == '/')), s, [.relativePath u]⟩

/-- Marks a file as just changed at the time `now`, and drops the marks that have run out. -/
def markJustChanged (s : FileStore) (u : Uri) (now : Nat) : FileStore :=
  { s with marks := (s.marks.filter fun _ expiry => now < expiry).insert u (now + s.grace) }

/-- The file counts as just changed at the time `now`. -/
def isJustChanged (s : FileStore) (u : Uri) (now : Nat) : Bool :=
  match s.marks.get? u with
  | some expiry => now < expiry
  | none => false

end FileStore

end SymbolAtlas
