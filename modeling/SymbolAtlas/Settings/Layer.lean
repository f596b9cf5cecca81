import SymbolAtlas.Settings.KeyPath
import SymbolAtlas.Settings.Value
import SymbolAtlas.Text.Case

/-!
# Layers

Settings are built up layer by layer. A table is merged into the table below it key by key; any
other value replaces what was there. Keys are compared in lower case. On the way to a place, what
is not a table or a list as the path needs it gives way to an empty one.
-/

namespace SymbolAtlas.Settings

/-- The entries of a table; any other value counts as an empty table. -/
def Value.entries : Value → List (String × Value)
  | .table entries => entries
  | _ => []

/-- The items of a list; any other value counts as an empty list. -/
def Value.items : Value → List Value
  | .arr items => items
  | _ => []

mutual

/-- Puts `value` over `old`: tables are merged, anything else replaces. An empty table leaves what
is there. -/
def Value.over : Value → Option Value → Value
  | .table [], old => old.getD (.table [])
  | .table (e :: es), old => .table (mergeEntries (e :: es) ((old.map Value.entries).getD []))
  | value, _ => value

/-- Merges entries, one after the other, into those of a table. -/
def mergeEntries : List (String × Value) → List (String × Value) → List (String × Value)
  | [], base => base
  | (name, value) :: rest, base =>
    let key := Text.lowerString name
    mergeEntries rest (Value.setEntry key (value.over (Value.entry? key base)) base)

end

/-- The position in a list of the given length that a step names. -/
def slot (position : Int) (length : Nat) : Nat :=
  if 0 ≤ position then position.toNat else length - (-position).toNat

/-- The list with enough items for the slot. -/
def padded (items : List Value) (slot : Nat) : List Value :=
  items ++ List.replicate (slot + 1 - items.length) .nil

/-- Puts `value` at the end of the steps below `old`. -/
def putAt (value : Value) : List Step → Option Value → Value
  | [], old => value.over old
  | [.index n], old =>
    let items := (old.map Value.items).getD []
    let i := slot n items.length
    .arr ((padded items i).set i value)
  | .index n :: rest, old =>
    let items := (old.map Value.items).getD []
    let i := slot n items.length
    let items := padded items i
    .arr (items.set i (putAt value rest items[i]?))
  | .child name :: rest, old =>
    let entries := (old.map Value.entries).getD []
    let key := Text.lowerString name
    .table (Value.setEntry key (putAt value rest (Value.entry? key entries)) entries)

/-- Puts a value at a place in the settings. -/
def KeyPath.put (path : KeyPath) (value : Value) (base : List (String × Value)) :
    List (String × Value) :=
  let key := Text.lowerString path.root
  Value.setEntry key (putAt value path.steps (Value.entry? key base)) base

/-- Puts a top-level entry of a file into the settings: its name is a path if it reads as one. -/
def putEntry (base : List (String × Value)) (entry : String × Value) : List (String × Value) :=
  match KeyPath.parse entry.1 with
  | .ok path => path.put entry.2 base
  | .error _ => KeyPath.put ⟨entry.1, []⟩ entry.2 base

/-- Puts all top-level entries of a file into the settings. -/
def putLayer (base layer : List (String × Value)) : List (String × Value) :=
  layer.foldl putEntry base

end SymbolAtlas.Settings
