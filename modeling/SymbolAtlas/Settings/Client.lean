import SymbolAtlas.Json
import SymbolAtlas.Settings

/-!
# Settings from the editor

An editor sends its section of settings by name, or answers with the section alone when asked. Keys
that it leaves out keep their value; a section that is malformed in any way says nothing.
-/

namespace SymbolAtlas

/-- The section as the editor sends it. -/
structure ClientSettings where
  hoverEnabled : Option Bool
  analyticsEnabled : Option Bool
  deriving DecidableEq, Repr, Inhabited

namespace ClientSettings

/-- The name of the section. -/
def sectionName : String := "goodEnoughScala"

/-- The section that says nothing. -/
def silent : ClientSettings := ⟨none, none⟩

/-- An optional truth value: it may be absent or null. -/
def flag? : Option Json → Option (Option Bool)
  | none | some .null => some none
  | some (.bool b) => some (some b)
  | some _ => none

/-- A well-formed section: an object with the two keys, or a list of the two values. -/
def section? : Json → Option ClientSettings
  | .obj fields => do
    let value := Json.obj fields
    some ⟨← flag? (value.field? "hoverEnabled"), ← flag? (value.field? "analyticsEnabled")⟩
  | .arr [hover, analytics] => do some ⟨← flag? (some hover), ← flag? (some analytics)⟩
  | _ => none

/-- What a section says. -/
def ofSection (value : Json) : ClientSettings := (section? value).getD silent

/-- What a notification says, which holds the section by name. -/
def ofNotification (settings : Json) : ClientSettings :=
  match settings.field? sectionName with
  | some value => ofSection value
  | none => silent

/-- The features after the section has been taken in. -/
def apply (c : ClientSettings) (f : Features) : Features :=
  ⟨c.hoverEnabled.getD f.hoverEnabled, c.analyticsEnabled.getD f.analyticsEnabled⟩

end ClientSettings

end SymbolAtlas
