/-!
# UTF-16 code units

Columns count UTF-16 code units: one for a character of the basic plane and two, a surrogate pair,
for every other character.
-/

namespace SymbolAtlas.Text

/-- How many code units a character takes. -/
def unitWidth (c : Char) : Nat := if c.toNat < 0x10000 then 1 else 2

/-- How many code units a text takes. -/
def unitCount : List Char → Nat
  | [] => 0
  | c :: cs => unitWidth c + unitCount cs

/-- The code units of a character. -/
def charUnits (c : Char) : List Nat :=
  if c.toNat < 0x10000 then [c.toNat]
  else [0xD800 + (c.toNat - 0x10000) / 0x400, 0xDC00 + (c.toNat - 0x10000) % 0x400]

/-- The code units of a text. -/
def units (cs : List Char) : List Nat := cs.flatMap charUnits

@[simp] theorem length_charUnits (c : Char) : (charUnits c).length = unitWidth c := by
  unfold charUnits unitWidth
  split <;> rfl

@[simp] theorem length_units (cs : List Char) : (units cs).length = unitCount cs := by
  induction cs with
  | nil => rfl
  | cons c cs ih => simp_all [units, unitCount]

end SymbolAtlas.Text
