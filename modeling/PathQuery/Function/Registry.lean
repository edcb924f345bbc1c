import PathQuery.Function.Builtin

/-!
Which functions can be called, under which names and with how many arguments.
-/

namespace PathQuery

/-- A function under a name; it takes from `least` to `greatest` arguments. -/
structure FunctionEntry where
  name : String
  least : Nat
  greatest : Nat
  summary : String
  builtin : Builtin

/-- The functions there are. Of entries with one name the first counts. -/
structure Registry where
  entries : List FunctionEntry

namespace Registry

def empty : Registry := ⟨[]⟩

def find? (r : Registry) (name : String) : Option FunctionEntry :=
  r.entries.find? fun e => e.name == name

/-- An entry replaces the one of its name. -/
def register (r : Registry) (e : FunctionEntry) : Registry :=
  ⟨(r.entries.filter fun old => old.name != e.name) ++ [e]⟩

/-- The entries in the order of their names. -/
def sorted (r : Registry) : List FunctionEntry :=
  r.entries.mergeSort fun x y => !(y.name.toList < x.name.toList)

def standard : Registry :=
  ⟨[⟨"length", 0, 0, "number of elements, members or characters", .length⟩,
    ⟨"keys", 0, 0, "member names of every object", .keys⟩,
    ⟨"values", 0, 0, "member values of every object", .values⟩,
    ⟨"map", 1, 1, "apply a nested query to every element", .map⟩,
    ⟨"filter", 1, 1, "keep elements for which a condition holds", .filter⟩,
    ⟨"sum", 0, 0, "exact sum of numbers", .sum⟩,
    ⟨"avg", 0, 0, "average of numbers, null when empty", .avg⟩,
    ⟨"min", 0, 0, "smallest number or string", .min⟩,
    ⟨"max", 0, 0, "largest number or string", .max⟩,
    ⟨"first", 0, 0, "first element", .first⟩,
    ⟨"last", 0, 0, "last element", .last⟩,
    ⟨"reverse", 0, 0, "elements in reverse order", .reverse⟩,
    ⟨"sort", 0, 0, "numbers or strings in ascending order", .sort⟩,
    ⟨"unique", 0, 0, "elements with duplicates removed", .unique⟩,
    ⟨"flatten", 0, 0, "splice nested arrays one level", .flatten⟩,
    ⟨"type", 0, 0, "JSON type name of each value", .typeNames⟩,
    ⟨"matches", 1, 1, "whether each string matches a regex", .matchesRegex⟩,
    ⟨"contains", 1, 1, "membership in an array or substring test", .contains⟩]⟩

/-- Calls the function of that name, if the number of arguments is right. -/
def invoke (r : Registry) (c : Call) : Outcome ValueSet :=
  match r.find? c.name with
  | none => .fail (.unknownFunction c.name)
  | some e =>
    if c.args.length < e.least || e.greatest < c.args.length then
      .fail (.arity c.name e.least e.greatest c.args.length)
    else e.builtin.run c

end Registry

end PathQuery
