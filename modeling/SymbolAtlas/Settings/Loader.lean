import SymbolAtlas.Disk.Tree
import SymbolAtlas.Settings.Field
import SymbolAtlas.Settings.Layer
import SymbolAtlas.Toml.Reader

/-!
# Loading settings

Settings come in layers: the usual ones, then files in the order in which they were added, and above
all files single places that were set by hand. It does not matter whether a place was set before or
after a file was added.
-/

namespace SymbolAtlas.Settings

/-- The name of a file source. -/
def sourceName : FileSource → String
  | .client => "client"
  | .disk => "disk"

/-- The layer that spells the settings out. -/
def layer (s : Settings) : List (String × Value) :=
  [("features", .table [("hover_enabled", .bool s.features.hoverEnabled),
      ("analytics_enabled", .bool s.features.analyticsEnabled)]),
    ("indexing", .table [("debounce_ms", .int s.indexing.debounceMs),
      ("just_changed_ms", .int s.indexing.justChangedMs),
      ("file_source", .str (sourceName s.indexing.fileSource)),
      ("extensions", .arr (s.indexing.extensions.map .str))])]

/-- A file with settings. -/
structure SettingsFile where
  path : Disk.Path
  /-- The file has to be there. -/
  required : Bool
  deriving DecidableEq, Repr

namespace SettingsFile

/-- The ending that a name may leave out. -/
def ending : Disk.Name := Disk.Name.ofString ".toml"

/-- The path with the ending added to its last name. -/
def withEnding? (path : Disk.Path) : Option Disk.Path :=
  path.name?.map fun n => .ofParts (path.parts.dropLast ++ [.name (n ++ ending)])

/-- The bytes of the file under its name, or under its name with the ending. -/
def content? (f : SettingsFile) (t : Disk.FileTree) : Option (List UInt8) :=
  (t.read? f.path).or ((withEnding? f.path).bind t.read?)

/-- The layer that the file holds. A file that need not be there holds nothing if it cannot be
read. -/
def layer (f : SettingsFile) (t : Disk.FileTree) : Load (List (String × Value)) :=
  match (f.content? t).bind Text.ofUtf8? with
  | some text => match Toml.parse? text with
    | some entries => .ok entries
    | none => .error (.malformed f.path.text)
  | none => if f.required then .error (.unreadable f.path.text) else .ok []

end SettingsFile

/-- What settings are loaded from. -/
structure Loader where
  files : List SettingsFile
  overrides : List (KeyPath × Value)

namespace Loader

/-- Nothing but the usual settings. -/
def usual : Loader := ⟨[], []⟩

/-- Adds a file that has to be there. -/
def withFile (l : Loader) (path : Disk.Path) : Loader :=
  { l with files := l.files ++ [⟨path, true⟩] }

/-- Adds a file that need not be there. -/
def withOptionalFile (l : Loader) (path : Disk.Path) : Loader :=
  { l with files := l.files ++ [⟨path, false⟩] }

/-- Sets one place above all files. What was set for the same path before is forgotten. -/
def setOverride (l : Loader) (key : String) (value : Value) : Load Loader :=
  match KeyPath.parse key with
  | .ok path => .ok { l with overrides := l.overrides.filter (·.1 ≠ path) ++ [(path, value)] }
  | .error cause => .error (.badKey cause)

/-- The merged layers. -/
def merged (l : Loader) (t : Disk.FileTree) : Load (List (String × Value)) := do
  let layers ← l.files.mapM (·.layer t)
  let filed := layers.foldl putLayer (Settings.default.layer)
  return l.overrides.foldl (fun base o => o.1.put o.2 base) filed

/-- The settings. -/
def load (l : Loader) (t : Disk.FileTree) : Load Settings := do ofLayers (← l.merged t)

end Loader

end SymbolAtlas.Settings
