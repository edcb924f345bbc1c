import PathQuery.Decimal96
import PathQuery.Evaluation.Outcome
import PathQuery.Regex.Matcher
import PathQuery.Regex.Parser

/-!
The built-in functions. Each takes the whole set of values that reaches it. Most work on the
elements of a definite single array, or else on the values of the set.
-/

namespace PathQuery

inductive Builtin where
  | length
  | keys
  | values
  | map
  | filter
  | sum
  | avg
  | min
  | max
  | first
  | last
  | reverse
  | sort
  | unique
  | flatten
  | typeNames
  | matchesRegex
  | contains
deriving DecidableEq

/-- An argument as written, and what it means for a given set of current values: as a nested query,
as a condition, and as an operand. -/
structure Argument where
  node : Node
  evaluate : ValueSet → Outcome ValueSet
  holds : ValueSet → Outcome Bool
  operand : ValueSet → Outcome (Option Json)

/-- A call under the name it was written with. -/
structure Call where
  name : String
  args : List Argument
  input : ValueSet

namespace Call

/-- The argument of a function that takes one. -/
def argument (c : Call) : Outcome Argument :=
  match c.args with
  | arg :: _ => .ok arg
  | [] => .fail (.arity c.name 1 1 0)

def scalarArgument (c : Call) : Outcome Json := do
  let arg ← c.argument
  match ← arg.operand c.input with
  | some value => return value
  | none => .mismatch (.emptyArgument c.name arg.node)

def members (c : Call) : Outcome (List (String × Json)) := do
  let objects ← c.input.items.mapM fun item =>
    match item with
    | .object members => .ok members
    | other => .mismatch (.notObject c.name other.kind)
  return objects.flatten

def numbers (c : Call) : Outcome (List Number) :=
  c.input.items.mapM fun item =>
    match item with
    | .number n => .ok n
    | other => .mismatch (.notNumber c.name other.kind)

/-- One result for each element: definite when the input was, for a single element. -/
def perItem (c : Call) (values : List Json) : ValueSet :=
  ⟨values, values.length == 1 && c.input.definite⟩

/-! ## The functions -/

def length (c : Call) : Outcome ValueSet := do
  let count ← match c.input.values with
    | [value] =>
      if c.input.definite then
        match value with
        | .array items => .ok items.length
        | .object members => .ok members.length
        | .string s => .ok s.length
        | .null => .ok 0
        | other => .mismatch (.noLength other.kind)
      else .ok 1
    | values => .ok values.length
  return .single (.number (.int count))

def keys (c : Call) : Outcome ValueSet := do
  return .many ((← c.members).map fun m => .string m.1)

def values (c : Call) : Outcome ValueSet := do
  return .many ((← c.members).map (·.2))

/-- The argument is looked at for each element, so that no elements need none. -/
def map (c : Call) : Outcome ValueSet := do
  let results ← c.input.items.mapM fun item => do (← c.argument).evaluate (.single item)
  return .many (results.flatMap ValueSet.values)

def filter (c : Call) : Outcome ValueSet := do
  let arg ← c.argument
  if arg.node.isCondition then
    return .many (← c.input.items.filterM fun item => arg.holds (.single item))
  else .mismatch (.filterCondition arg.node)

def sum (c : Call) : Outcome ValueSet := do
  return .single (Number.sum (← c.numbers))

def average (c : Call) : Outcome ValueSet := do
  return .single (Number.average (← c.numbers))

/-- The element that remains when each next one replaces the best so far if `better` holds of their
ordering. -/
def extreme (c : Call) (better : Ordering → Bool) : Outcome ValueSet := do
  match c.input.items with
  | [] => return .single .null
  | first :: rest =>
    let best ← rest.foldlM (fun best item =>
      match Json.compareOrdered best item with
      | some o => .ok (if better o then item else best)
      | none => .mismatch (.incomparable c.name best.kind item.kind)) first
    return .single best

def min (c : Call) : Outcome ValueSet :=
  extreme c (· == .gt)

def max (c : Call) : Outcome ValueSet :=
  extreme c (· == .lt)

def first (c : Call) : Outcome ValueSet :=
  .ok (.optional c.input.items.head?)

def last (c : Call) : Outcome ValueSet :=
  .ok (.optional c.input.items.getLast?)

def reverse (c : Call) : Outcome ValueSet :=
  .ok (.many c.input.items.reverse)

/-- The first two neighbours that have no order. -/
def unordered? : List Json → Option (Json × Json)
  | x :: y :: rest =>
    if (Json.compareOrdered x y).isNone then some (x, y) else unordered? (y :: rest)
  | _ => none

/-- Puts `x` behind the last element that it does not precede; the list holds the elements sorted so
far, the greatest first. -/
def insertDescending (x : Json) : List Json → List Json
  | [] => [x]
  | y :: rest =>
    if Json.compareOrdered x y = some .lt then y :: insertDescending x rest else x :: y :: rest

/-- The items by insertion. Where the comparison is a total preorder, this is the one ascending
order in which equal items stand as they came. -/
def sorted (items : List Json) : List Json :=
  (items.foldl (fun done x => insertDescending x done) []).reverse

/-- Up to this many items are sorted by insertion, whatever the comparison makes of them. -/
def insertionLimit : Nat := 20

/-- Whether it is settled what sorting gives. With more items than are sorted by insertion the
comparison has to be transitive: a stable sort has one result then, and may panic otherwise. -/
def isSortable (items : List Json) : Bool :=
  items.length ≤ insertionLimit || Json.isCoherent items

theorem isSortable_of_length {items : List Json} (few : items.length ≤ insertionLimit) :
    isSortable items := by
  simp [isSortable, few]

def sort (c : Call) : Outcome ValueSet :=
  match unordered? c.input.items with
  | some (x, y) => .mismatch (.unsortable x.kind y.kind)
  | none =>
    if isSortable c.input.items then .ok (.many (sorted c.input.items))
    else .error (.disorder c.input.items)

/-- Each element that equals none before it. -/
def distinct (items : List Json) : List Json :=
  items.foldl (fun seen x => if seen.any fun s => Json.looseEq s x then seen else seen ++ [x]) []

def unique (c : Call) : Outcome ValueSet :=
  .ok (.many (distinct c.input.items))

def flatten (c : Call) : Outcome ValueSet :=
  .ok <| .many <| c.input.items.flatMap fun item =>
    match item with
    | .array inner => inner
    | other => [other]

def typeNames (c : Call) : Outcome ValueSet :=
  .ok ⟨c.input.values.map fun v => .string v.kind.name, c.input.definite⟩

def matchesRegex (c : Call) : Outcome ValueSet := do
  match ← c.scalarArgument with
  | .string pattern =>
    match Regex.parse? pattern with
    | some re =>
      return c.perItem <| c.input.items.map fun item =>
        match item with
        | .string s => .bool (re.isMatch s)
        | _ => .bool false
    | none => .mismatch .invalidPattern
  | other => .mismatch (.patternKind other.kind)

/-- Whether `part` occurs in the text. -/
def occursIn (part : List Char) : List Char → Bool
  | [] => part.isEmpty
  | c :: rest => part.isPrefixOf (c :: rest) || occursIn part rest

def contains (c : Call) : Outcome ValueSet := do
  let needle ← c.scalarArgument
  let isMember := c.input.items.any fun item => Json.looseEq item needle
  let found :=
    match c.input.values, needle with
    | [.string text], .string part =>
      if c.input.definite then occursIn part.toList text.toList else isMember
    | _, _ => isMember
  return .single (.bool found)

end Call

def Builtin.run : Builtin → Call → Outcome ValueSet
  | length => Call.length
  | keys => Call.keys
  | values => Call.values
  | map => Call.map
  | filter => Call.filter
  | sum => Call.sum
  | avg => Call.average
  | min => Call.min
  | max => Call.max
  | first => Call.first
  | last => Call.last
  | reverse => Call.reverse
  | sort => Call.sort
  | unique => Call.unique
  | flatten => Call.flatten
  | typeNames => Call.typeNames
  | matchesRegex => Call.matchesRegex
  | contains => Call.contains

end PathQuery
