import PathQuery.Json.Basic

/-!
The values that flow through a query, and what a query gives in the end.
-/

namespace PathQuery

/-- A set is definite while every step selected at most one value for each it was given. -/
structure ValueSet where
  values : List Json
  definite : Bool

namespace ValueSet

def single (value : Json) : ValueSet :=
  ⟨[value], true⟩

def many (values : List Json) : ValueSet :=
  ⟨values, false⟩

def optional (value : Option Json) : ValueSet :=
  ⟨value.toList, true⟩

/-- The elements a function works on: a definite single array is opened. -/
def items (s : ValueSet) : List Json :=
  match s.values with
  | [.array items] => if s.definite then items else s.values
  | values => values

end ValueSet

/-- A definite single value stands for itself, any other selection is a list. -/
inductive Output where
  | value (j : Json)
  | values (js : List Json)
  | bool (b : Bool)

namespace Output

def ofValueSet (s : ValueSet) : Output :=
  match s.values with
  | [j] => if s.definite then value j else values [j]
  | js => values js

def bool? : Output → Option Bool
  | bool b => some b
  | _ => none

def toJson : Output → Json
  | value j => j
  | values js => .array js
  | bool b => .bool b

end Output

end PathQuery
