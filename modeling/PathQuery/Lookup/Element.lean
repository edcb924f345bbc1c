import PathQuery.Query.Node

/-!
Selecting elements of arrays and members of objects, other than a single member by its name.
Negative indexes count from the end.
-/

namespace PathQuery.Lookup

def index? (items : List Json) (i : Int) : Option Json :=
  let place := if i < 0 then items.length + i else i
  if place < 0 then none else items[place.toNat]?

/-- A bound as a place between `low` and `high`. -/
def clampBound (length low high bound : Int) : Int :=
  let place := if bound < 0 then bound + length else bound
  max low (min place high)

/-- As many places as `count` says, from `start` on and `step` apart. -/
def places (start step : Int) (count : Nat) : List Int :=
  (List.range count).map fun (k : Nat) => start + k * step

/-- The places a slice selects in an array of the given length. A missing step is one; a step of
zero, which no query text holds, selects nothing. -/
def slicePlaces (s : Slice) (length : Int) : List Int :=
  let step := s.step.getD 1
  if 0 < step then
    let start := (s.start.map (clampBound length 0 length)).getD 0
    let stop := (s.stop.map (clampBound length 0 length)).getD length
    places start step ((stop - start + step - 1) / step).toNat
  else if step < 0 then
    let start := (s.start.map (clampBound length (-1) (length - 1))).getD (length - 1)
    let stop := (s.stop.map (clampBound length (-1) (length - 1))).getD (-1)
    places start step ((start - stop - step - 1) / -step).toNat
  else []

def slice (items : List Json) (s : Slice) : List Json :=
  (slicePlaces s items.length).filterMap fun i => items[i.toNat]?

/-- Member values or elements in document order; scalars have none. -/
def children : Json → List Json
  | .object members => members.map (·.2)
  | .array items => items
  | _ => []

/-- The object without the named members. -/
def without (members : List (String × Json)) (names : List String) : Json :=
  .object (members.filter fun m => !names.contains m.1)

end PathQuery.Lookup
