import SymbolAtlas.Json
import SymbolAtlas.Number.Shortest
import SymbolAtlas.Text.Quoted

/-!
# Values of settings

What a layer of settings can hold at a key, before the key's own type is looked at.
-/

namespace SymbolAtlas.Settings

/-- A value in a layer of settings. -/
inductive Value where
  | nil
  | bool (b : Bool)
  | int (n : Int)
  | float (x : Binary64)
  | str (s : String)
  | arr (items : List Value)
  | table (entries : List (String × Value))
  deriving Inhabited

namespace Value

/-- The value of an entry of a table. -/
def entry? (name : String) (entries : List (String × Value)) : Option Value :=
  (entries.find? fun e => e.1 == name).map (·.2)

/-- The table with `value` at `name`. -/
def setEntry (name : String) (value : Value) : List (String × Value) → List (String × Value)
  | [] => [(name, value)]
  | (n, v) :: rest => if n = name then (n, value) :: rest else (n, v) :: setEntry name value rest

mutual

/-- The value that a JSON value stands for. -/
def ofJson : Json → Value
  | .null => .nil
  | .bool b => .bool b
  | .int n => .int n
  | .float x => .float x
  | .str s => .str s
  | .arr items => .arr (ofItems items)
  | .obj fields => .table (ofFields fields)

/-- The values of a list. -/
def ofItems : List Json → List Value
  | [] => []
  | item :: items => ofJson item :: ofItems items

/-- The entries of an object. -/
def ofFields : List (String × Json) → List (String × Value)
  | [] => []
  | (name, value) :: fields => (name, ofJson value) :: ofFields fields

end

/-- What a message calls a value that stands where a list or a group of keys is expected. -/
def shown : Value → String
  | .nil => "unit value"
  | .bool b => "boolean `" ++ (if b then "true" else "false") ++ "`"
  | .int n => "integer `" ++ toString n ++ "`"
  | .float x => "floating point `" ++ x.toPointedText ++ "`"
  | .str s => "string " ++ Text.quoted s
  | .arr _ => "sequence"
  | .table _ => "map"

end Value

end SymbolAtlas.Settings
