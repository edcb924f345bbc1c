import PathQuery.Json.Basic
import PathQuery.Query.Token

/-!
Queries as trees. A query is a list of steps; the parser puts the root in front of them, and makes no
step but the last a condition. Paths also occur inside conditions and function arguments.
-/

namespace PathQuery

inductive Connective where
  | and
  | or
deriving DecidableEq

/-- Bounds of a slice, each of which may be left out. -/
structure Slice where
  start : Option Int
  stop : Option Int
  step : Option Int
deriving DecidableEq

/-- Something read from a query text, and the byte offset it was read at. -/
structure Located (α : Type) where
  node : α
  position : Nat

inductive Node where
  | root
  | current
  | property (name : String)
  | index (i : Int)
  | slice (s : Slice)
  | wildcard
  | multiKey (keys : List String)
  | omission (keys : List String)
  | call (name : String) (args : List Node)
  | comparison (op : Comparator) (left right : Node)
  | condition (op : Connective) (left right : Node)
  | not (inner : Node)
  | literal (value : Json)
  | path (steps : List (Located Node))

abbrev Step := Located Node

namespace Node

/-- Whether the node narrows a set of values. -/
def isPathStep : Node → Bool
  | property _ | index _ | slice _ | wildcard | multiKey _ | omission _ | call _ _ => true
  | _ => false

/-- Whether the node yields a truth value. -/
def isCondition : Node → Bool
  | comparison .. | condition .. | not _ => true
  | _ => false

end Node

/-- A whole query. -/
structure Query where
  steps : List Step

namespace Query

/-- The condition that ends the query, if one does. -/
def condition? (q : Query) : Option Node :=
  (q.steps.getLast?.map Located.node).filter Node.isCondition

def isPredicate (q : Query) : Bool :=
  q.condition?.isSome

end Query

end PathQuery
