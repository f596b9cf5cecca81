import SymbolAtlas.Declaration
import SymbolAtlas.Matching

/-!
# Search by name

Names that match a query are ranked by the place of the match: an exact match comes first, then
matches by the distance between their first and their last character; for a query of one character
the position itself counts. Equal ranks keep the order of the snapshot.
-/

namespace SymbolAtlas

/-- The rank of a match at the given positions. -/
def matchRank (positions : List Nat) : Option Nat :=
  match positions.head?, positions.getLast? with
  | some first, some last =>
    if positions.length = 1 then some (2 + first) else some (2 + (last - first))
  | _, _ => none

/-- The rank of a name for a query in lower case; `none` if it does not match. -/
def nameRank (query name : List Char) : Option Nat := do
  let positions ← Matching.align? query name
  if Text.lower name = query then some 1 else matchRank positions

/-- The items whose names match the query, best first. The empty query matches everything. -/
def searchBy {α : Type} (name : α → String) (items : List α) (query : String) : List α :=
  if query.isEmpty then items
  else
    let folded := Text.lower query.toList
    let ranked := items.filterMap fun item =>
      (nameRank folded (name item).toList).map fun rank => (rank, item)
    (ranked.mergeSort fun a b => decide (a.1 ≤ b.1)).map (·.2)

/-- The declarations whose identifiers match the query, best first. -/
def search (snapshot : List Declaration) (query : String) : List Declaration :=
  searchBy Declaration.identifier snapshot query

end SymbolAtlas
