/-!
# Settings

What a user can set: which features are on, and how the workspace is indexed.
-/

namespace SymbolAtlas

/-- Features that an editor can also turn on and off while the server runs. -/
structure Features where
  hoverEnabled : Bool
  analyticsEnabled : Bool
  deriving DecidableEq, Repr, Inhabited

/-- Where the texts of files come from. -/
inductive FileSource where
  /-- The editor is asked. -/
  | client
  /-- The workspace folders are read. -/
  | disk
  deriving DecidableEq, Repr, Inhabited

/-- How the workspace is indexed. -/
structure Indexing where
  /-- The quiet window before a burst of edits is indexed, in milliseconds. -/
  debounceMs : Nat
  /-- The grace period of an edited file, in milliseconds. -/
  justChangedMs : Nat
  fileSource : FileSource
  /-- Endings of the names of source files. -/
  extensions : List String
  deriving DecidableEq, Repr, Inhabited

/-- All settings. -/
structure Settings where
  features : Features
  indexing : Indexing
  deriving DecidableEq, Repr, Inhabited

/-- The endings of source file names, unless set otherwise. -/
def usualExtensions : List String := ["scala", "sbt", "sc", "routes", "scala.html"]

/-- The settings when nothing is set. -/
def Settings.default : Settings where
  features := ⟨true, true⟩
  indexing := ⟨150, 500, .client, usualExtensions⟩

end SymbolAtlas
