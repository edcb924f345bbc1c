import PathQuery.Json.Basic

/-!
Order and equality of JSON values. Only two numbers or two strings are ordered. Equality is loose:
`1` equals `1.0`, and objects are equal whatever the order of their members.
-/

namespace PathQuery.Json

/-- Strings are ordered by code points. -/
def compareOrdered : Json → Json → Option Ordering
  | number m, number n => some (m.compare n)
  | string s, string t => some (compareOfLessAndEq s.toList t.toList)
  | _, _ => none

/-- The integers among the items that are equal to a float. -/
def integersEqual (f : Binary64) (items : List Json) : List Int :=
  items.filterMap fun
    | number (.int n) => if (Number.int n).compare (.float f) = .eq then some n else none
    | _ => none

/-- Whether no float among the items equals two different integers among them. The comparison is
transitive on the items then. -/
def isCoherent (items : List Json) : Bool :=
  items.all fun
    | number (.float f) => (integersEqual f items).all fun m => (integersEqual f items).all (m == ·)
    | _ => true

mutual

def looseEq : Json → Json → Bool
  | null, null => true
  | bool a, bool b => a == b
  | number m, number n => m.compare n == .eq
  | string s, string t => s == t
  | array xs, array ys => looseEqItems xs ys
  | object xs, object ys => xs.length == ys.length && looseEqMembers xs ys
  | _, _ => false

def looseEqItems : List Json → List Json → Bool
  | [], [] => true
  | x :: xs, y :: ys => looseEq x y && looseEqItems xs ys
  | _, _ => false

/-- Every member of the first list has a counterpart in the second. -/
def looseEqMembers : List (String × Json) → List (String × Json) → Bool
  | [], _ => true
  | (name, x) :: rest, ys =>
    (match ys.lookup name with
      | some y => looseEq x y
      | none => false) && looseEqMembers rest ys

end

end PathQuery.Json
