import SymbolAtlas.Number.Binary64

/-!
# JSON values

The values that editors and the server exchange. Numbers keep the distinction that their spelling
makes: one without fraction and exponent that fits in 64 bits is an integer.
-/

namespace SymbolAtlas

/-- A JSON value. The fields of an object are listed in the order in which they were written. -/
inductive Json where
  | null
  | bool (b : Bool)
  | int (n : Int)
  | float (x : Binary64)
  | str (s : String)
  | arr (items : List Json)
  | obj (fields : List (String × Json))
  deriving Inhabited

namespace Json

/-- The value of a field; of several with one name the last one counts. -/
def field? (name : String) : Json → Option Json
  | .obj fields => (fields.reverse.find? fun f => f.1 == name).map (·.2)
  | _ => none

/-- The text of a string. -/
def str? : Json → Option String
  | .str s => some s
  | _ => none

/-- The value of a truth value. -/
def bool? : Json → Option Bool
  | .bool b => some b
  | _ => none

/-- The items of a list. -/
def arr? : Json → Option (List Json)
  | .arr items => some items
  | _ => none

/-- The fields of an object. -/
def obj? : Json → Option (List (String × Json))
  | .obj fields => some fields
  | _ => none

/-- The value of an integer. -/
def int? : Json → Option Int
  | .int n => some n
  | _ => none

/-- The value of a natural number below the bound. -/
def natBelow? (bound : Nat) : Json → Option Nat
  | .int n => if 0 ≤ n ∧ n < bound then some n.toNat else none
  | _ => none

/-- The value is null. -/
def isNull : Json → Bool
  | .null => true
  | _ => false

/-- A natural number. -/
def nat (n : Nat) : Json := .int n

end Json

end SymbolAtlas
