/-!
# Widths of integers

How many values integers of the usual widths have.
-/

namespace SymbolAtlas.Number

/-- The number of values of 32 bits. -/
def words32 : Nat := 4294967296

/-- The number of values of 64 bits. -/
def words64 : Nat := 18446744073709551616

/-- The integer has 32 bits, one of which is for the sign. -/
def isSigned32 (n : Int) : Bool := -2147483648 ≤ n && n < 2147483648

/-- The integer has 64 bits, one of which is for the sign. -/
def isSigned64 (n : Int) : Bool := -9223372036854775808 ≤ n && n < 9223372036854775808

end SymbolAtlas.Number
