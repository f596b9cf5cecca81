import SymbolAtlas.Number.Width
import SymbolAtlas.Settings
import SymbolAtlas.Settings.KeyPath
import SymbolAtlas.Settings.Value
import SymbolAtlas.Text.Case

/-!
# Typed settings

Reading settings out of the values that the layers left at their keys. A value of another type is
converted where that makes sense: numbers and words stand for truth values, texts for numbers.

A group of settings is a table, or a list with the settings in order.
-/

namespace SymbolAtlas.Settings

/-- Why there are no settings. -/
inductive LoadError where
  /-- The place to override is no path of keys. -/
  | badKey (cause : PathError)
  /-- A required file is missing or is no text. -/
  | unreadable (path : String)
  /-- A file does not follow its format. -/
  | malformed (path : String)
  /-- A setting has a value of the wrong type. -/
  | wrongType (found expected key : String)
  /-- A list or a group is something else. -/
  | wrongShape (found expected : String)
  /-- A group is a list with too few items. -/
  | tooShort (length : Nat) (expected : String)
  /-- A group lacks a setting. -/
  | missing (name : String)
  /-- A file source of an unknown name. -/
  | unknownSource (name : String)
  /-- A file source is neither a name nor a table with one. -/
  | namelessSource
  deriving DecidableEq, Repr

/-- The text of an error. -/
def LoadError.message : LoadError → String
  | .badKey cause => cause.message
  | .unreadable path => "configuration file \"" ++ path ++ "\" not found"
  | .malformed path => "cannot parse " ++ path
  | .wrongType found expected key =>
    "invalid type: " ++ found ++ ", expected " ++ expected ++ " for key `" ++ key ++ "`"
  | .wrongShape found expected => "invalid type: " ++ found ++ ", expected " ++ expected
  | .tooShort length expected => "invalid length " ++ toString length ++ ", expected " ++ expected
  | .missing name => "missing field `" ++ name ++ "`"
  | .unknownSource name => "enum FileSource does not have variant constructor " ++ name
  | .namelessSource => "value of enum FileSource should be represented by either string or "
      ++ "table with exactly one key"

/-- What can be read, or an error. -/
abbrev Load := Except LoadError

/-! ### Single settings -/

/-- Words that stand for true. -/
def yesWords : List String := ["true", "on", "yes"]

/-- Words that stand for false. -/
def noWords : List String := ["false", "off", "no"]

/-- A truth value. -/
def Value.asBool (key : String) : Value → Load Bool
  | .bool b => .ok b
  | .int n => .ok (n != 0)
  | .float x => .ok x.isNonzero
  | .str s =>
    let word := Text.lowerString s
    if word ∈ "1" :: yesWords then .ok true
    else if word ∈ "0" :: noWords then .ok false
    else .error (.wrongType (Value.str word).shown "a boolean" key)
  | value => .error (.wrongType value.shown "a boolean" key)

/-- The greatest number of milliseconds that can be set. -/
def greatestCount : Nat := Number.words64 - 1

/-- The number that decimal digits spell, after a plus sign or not. -/
def count? (s : String) : Option Nat :=
  let digits := match s.toList with
    | '+' :: rest => rest
    | cs => cs
  if digits.isEmpty || !digits.all Char.isDigit then none
  else
    let n := digits.foldl (fun n c => 10 * n + (c.toNat - 0x30)) 0
    if n ≤ greatestCount then some n else none

/-- A number of milliseconds. -/
def Value.asCount (key : String) : Value → Load Nat
  | .bool b => .ok b.toNat
  | .int n =>
    if n < 0 then
      .error (.wrongType ("64-bit integer `" ++ toString n ++ "`")
        "an unsigned 64 bit or less integer" key)
    else .ok n.toNat
  | .float x => .ok (x.toNatSaturated greatestCount)
  | .str s =>
    let word := Text.lowerString s
    if word ∈ yesWords then .ok 1
    else if word ∈ noWords then .ok 0
    else match count? s with
      | some n => .ok n
      | none => .error (.wrongType (Value.str s).shown "an integer" key)
  | value => .error (.wrongType value.shown "an integer" key)

/-- A text. -/
def Value.asText (key : String) : Value → Load String
  | .str s => .ok s
  | .bool b => .ok (if b then "true" else "false")
  | .int n => .ok (toString n)
  | .float x => .ok x.toText
  | value => .error (.wrongType value.shown "a string" key)

/-- The key of an item of a list. -/
def itemKey (key : String) (i : Nat) : String := key ++ "[" ++ toString i ++ "]"

/-- A list of texts. -/
def Value.asTexts (key : String) : Value → Load (List String)
  | .arr items => items.zipIdx.mapM fun item => item.1.asText (itemKey key item.2)
  | value => .error (.wrongShape value.shown "a sequence")

/-- The file source of the given name, in any case. -/
def fileSource (name : String) : Load FileSource :=
  let word := Text.lowerString name
  if word = "client" then .ok .client
  else if word = "disk" then .ok .disk
  else .error (.unknownSource name)

/-- A file source, by its name or as the only key of a table. -/
def Value.asFileSource : Value → Load FileSource
  | .str name => fileSource name
  | .table [(name, _)] => fileSource name
  | _ => .error .namelessSource

/-! ### Groups -/

/-- The settings of a group, by name or in order. -/
inductive Group where
  | named (key : String) (entries : List (String × Value))
  | listed (key : String) (items : List Value) (expected : String)

namespace Group

/-- The group at a key; `kind` and `size` describe it in messages. -/
def of (key kind : String) (size : Nat) : Value → Load Group
  | .table entries => .ok (.named key entries)
  | .arr items => .ok (.listed key items
      ("struct " ++ kind ++ " with " ++ toString size ++ " elements"))
  | value => .error (.wrongShape value.shown ("struct " ++ kind))

/-- A setting of a group and its key. -/
def setting (position : Nat) (name : String) : Group → Load (String × Value)
  | .named key entries => match Value.entry? name entries with
    | some value => .ok (key ++ "." ++ name, value)
    | none => .error (.missing name)
  | .listed key items expected => match items[position]? with
    | some value => .ok (itemKey key position, value)
    | none => .error (.tooShort items.length expected)

/-- Reads a setting. A value of the wrong type is an error at once; that the setting is not there is
left for when all the others have been read. -/
def read {α : Type} (g : Group) (position : Nat) (name : String)
    (as : String → Value → Load α) : Load (Load α) :=
  match g.setting position name with
  | .ok (key, value) => (as key value).map .ok
  | .error e => .ok (.error e)

end Group

/-- The features. -/
def Value.asFeatures (value : Value) : Load Features := do
  let g ← Group.of "features" "FeaturesConfig" 2 value
  let hoverEnabled ← g.read 0 "hover_enabled" Value.asBool
  let analyticsEnabled ← g.read 1 "analytics_enabled" Value.asBool
  return ⟨← hoverEnabled, ← analyticsEnabled⟩

/-- How the workspace is indexed. -/
def Value.asIndexing (value : Value) : Load Indexing := do
  let g ← Group.of "indexing" "IndexingConfig" 4 value
  let debounceMs ← g.read 0 "debounce_ms" Value.asCount
  let justChangedMs ← g.read 1 "just_changed_ms" Value.asCount
  let source ← g.read 2 "file_source" fun _ => Value.asFileSource
  let extensions ← g.read 3 "extensions" Value.asTexts
  return ⟨← debounceMs, ← justChangedMs, ← source, ← extensions⟩

/-- The settings that the merged layers spell. -/
def ofLayers (entries : List (String × Value)) : Load Settings := do
  let group (name : String) : Load Value :=
    match Value.entry? name entries with
    | some value => .ok value
    | none => .error (.missing name)
  let features ← (← group "features").asFeatures
  return ⟨features, ← (← group "indexing").asIndexing⟩

end SymbolAtlas.Settings
