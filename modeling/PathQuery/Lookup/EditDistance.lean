/-!
Optimal string alignment distance: the least number of insertions, deletions, substitutions and
transpositions of neighbours that turn one text into another, no part being edited twice. The table
of distances between beginnings is computed row by row.
-/

namespace PathQuery.EditDistance

/-- The cells of a row behind the first. The row belongs to the character `a`, which `before`
precedes; `left` is the cell to the left and `passed` the column's preceding character. `above` is
the row above from the cell diagonally up on, and `higher` the row above that from two columns
back. -/
def rowCells (a : Char) (before : Option Char) :
    (left : Nat) → (passed : Option Char) → (columns : List Char) → (above higher : List Nat) →
      List Nat
  | left, passed, b :: columns, diagonal :: up :: above, higher =>
    let edited := min (min (up + 1) (left + 1)) (diagonal + if a = b then 0 else 1)
    let best :=
      match higher with
      | swapped :: _ =>
        if before = some b ∧ passed = some a then min edited (swapped + 1) else edited
      | [] => edited
    let higher := if passed.isSome then higher.tail else higher
    best :: rowCells a before best (some b) columns (up :: above) higher
  | _, _, _, _, _ => []

/-- The row of `a`, given the two rows above it. -/
def row (a : Char) (before : Option Char) (columns : List Char) (above higher : List Nat) :
    List Nat :=
  let first := above.headD 0 + 1
  first :: rowCells a before first none columns above higher

/-- The last of the rows for the characters `as`. -/
def lastRow (columns : List Char) : (before : Option Char) → (as : List Char) →
    (above higher : List Nat) → List Nat
  | _, [], above, _ => above
  | before, a :: as, above, higher =>
    lastRow columns (some a) as (row a before columns above higher) above

def distance (s t : List Char) : Nat :=
  (lastRow t none s (List.range (t.length + 1)) []).getLastD 0

end PathQuery.EditDistance
