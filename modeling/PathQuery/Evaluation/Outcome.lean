import PathQuery.Evaluation.Comparison
import PathQuery.Evaluation.ValueSet
import PathQuery.Failure

/-!
What an evaluation gives: a result, an error, or neither of them, because an alias leads back to
itself or a sort has no order to go by.
-/

namespace PathQuery

/-- How an evaluation ends without a result. Only an error is answered. An evaluation that would
never end is `circular`: it takes up the stack until none is left. Items that the comparison puts in
no order are a `disorder`: sorting them may panic. -/
inductive Halt where
  | error (e : QueryError)
  | circular
  | disorder (items : List Json)

abbrev Outcome := Except Halt

namespace Outcome

def fail {α : Type} (e : QueryError) : Outcome α :=
  .error (.error e)

def mismatch {α : Type} (m : Mismatch) : Outcome α :=
  fail (.typeMismatch m)

end Outcome

/-- The one scalar that an operand resolved to, if any; `node` is the operand as written. -/
def scalarOf (node : Node) (set : ValueSet) : Outcome (Option Json) :=
  match set.values with
  | [] => .ok none
  | [value] => if value.isScalar then .ok (some value) else .mismatch (.notScalar node value.kind)
  | values => .mismatch (.manyValues node values.length)

/-- A comparison with an operand that resolved to nothing does not hold. -/
def compareOperands (op : Comparator) : Option Json → Option Json → Outcome Bool
  | some left, some right =>
    match op.apply left right with
    | .ok b => .ok b
    | .error m => .mismatch m
  | _, _ => .ok false

end PathQuery
