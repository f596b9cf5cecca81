import SymbolAtlas.Json
import SymbolAtlas.Number.Width
import SymbolAtlas.Uri.Parser

/-!
# Records in messages

Parameters of messages are records. A record is an object, and most kinds of records may also be a
list of all their fields in order. An object may leave out optional fields and hold others that
nobody asks for.
-/

namespace SymbolAtlas.Editor

/-- A way to read JSON values of some kind. -/
abbrev Reader (α : Type) := Json → Option α

namespace Reader

/-- Any value. -/
def anything : Reader Json := some

/-- A text. -/
def text : Reader String := Json.str?

/-- A truth value. -/
def flag : Reader Bool := Json.bool?

/-- A natural number of 32 bits. -/
def word : Reader Nat := Json.natBelow? Number.words32

/-- An integer of 32 bits. -/
def integer : Reader Int := fun j => do
  let n ← j.int?
  if Number.isSigned32 n then some n else none

/-- An identifier. -/
def uri : Reader Uri := fun j => j.str?.bind Uri.parse?

/-- A list. -/
def list {α : Type} (item : Reader α) : Reader (List α) := fun j => do
  (← j.arr?).mapM item

/-- A token of progress reports: a text or a number. -/
def token : Reader Unit := fun j =>
  if (text j).isSome || (integer j).isSome then some () else none

end Reader

/-- The fields of a record, by name or in order. -/
inductive Record where
  | named (fields : List (String × Json))
  | listed (items : List Json)

namespace Record

/-- A record with the given number of fields. -/
def ofSize (size : Nat) : Reader Record
  | .obj fields => some (.named fields)
  | .arr items => if items.length = size then some (.listed items) else none
  | _ => none

/-- A record that is always an object. -/
def ofObject : Reader Record
  | .obj fields => some (.named fields)
  | _ => none

/-- The value of a field. -/
def value? (r : Record) (position : Nat) (name : String) : Option Json :=
  match r with
  | .named fields => (Json.obj fields).field? name
  | .listed items => items[position]?

/-- A field that has to be there. -/
def get {α : Type} (r : Record) (position : Nat) (name : String) (read : Reader α) : Option α :=
  (r.value? position name).bind read

/-- A field that may be absent or null. -/
def get? {α : Type} (r : Record) (position : Nat) (name : String) (read : Reader α) :
    Option (Option α) :=
  match r.value? position name with
  | none | some .null => some none
  | some value => (read value).map some

/-- A field of an object that has to be there. -/
def field {α : Type} (r : Record) (name : String) (read : Reader α) : Option α := r.get 0 name read

/-- A field of an object that may be absent or null. -/
def field? {α : Type} (r : Record) (name : String) (read : Reader α) : Option (Option α) :=
  r.get? 0 name read

end Record

end SymbolAtlas.Editor
