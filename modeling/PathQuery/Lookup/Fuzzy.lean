import PathQuery.Json.Basic
import PathQuery.Lookup.EditDistance
import PathQuery.Unicode.Lowercase

/-!
Finding the member of an object that a name means: the member of that name, else the only one among
the closest names.
-/

namespace PathQuery

/-- How far a member name may be from the one asked for, and how many are considered. -/
structure FuzzyConfig where
  enabled : Bool
  distance : Nat
  limit : Nat
  ignoreCase : Bool
deriving DecidableEq

def FuzzyConfig.standard : FuzzyConfig :=
  ⟨false, 2, 1, false⟩

namespace Lookup

def foldCase (ignoreCase : Bool) (name : String) : String :=
  if ignoreCase then Unicode.lowercase name else name

/-- Nearer names come first, equally near ones in lexical order. -/
def closer (x y : Nat × String) : Bool :=
  x.1 < y.1 || (x.1 == y.1 && !(y.2.toList < x.2.toList))

/-- Names within the allowed distance, nearest first. -/
def candidates (config : FuzzyConfig) (name : String) (keys : List String) : List String :=
  let wanted := (foldCase config.ignoreCase name).toList
  let scored := keys.map fun key =>
    (EditDistance.distance wanted (foldCase config.ignoreCase key).toList, key)
  let near := scored.filter fun x => x.1 ≤ config.distance
  ((near.mergeSort closer).take config.limit).map (·.2)

/-- Several candidates are as good as none. -/
def member? (config : FuzzyConfig) (members : List (String × Json)) (name : String) :
    Option Json :=
  match members.lookup name with
  | some value => some value
  | none =>
    if config.enabled then
      match candidates config name (members.map (·.1)) with
      | [only] => members.lookup only
      | _ => none
    else none

end Lookup

end PathQuery
