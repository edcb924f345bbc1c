import PathQuery.Failure
import PathQuery.Json.Comparison

/-!
The comparison operators on JSON values.
-/

namespace PathQuery.Comparator

/-- Whether an ordering satisfies the operator. -/
def accepts : Comparator → Ordering → Bool
  | eq, o => o == .eq
  | ne, o => o != .eq
  | lt, o => o == .lt
  | le, o => o != .gt
  | gt, o => o == .gt
  | ge, o => o != .lt

/-- Equality is decided for all values, the orderings need two numbers or two strings. -/
def apply (op : Comparator) (left right : Json) : Except Mismatch Bool :=
  match op with
  | eq => .ok (Json.looseEq left right)
  | ne => .ok (!Json.looseEq left right)
  | op =>
    match Json.compareOrdered left right with
    | some o => .ok (op.accepts o)
    | none => .error (.unordered op left.kind right.kind)

end PathQuery.Comparator
