import PathQuery.Config.Basic
import PathQuery.Json.Printer

/-!
JSON text of configurations. Fields are written in a fixed order, and those that may be left out are
left out when they hold nothing.
-/

namespace PathQuery.Config

def strings (ss : List String) : Json :=
  .array (ss.map .string)

def count (n : Nat) : Json :=
  .number (.int n)

def AliasEntry.toJson (a : AliasEntry) : Json :=
  .object [("alias", .string a.name), ("path", .string a.path)]

/-- The member that holds a value, if there is a value. -/
def valueMember (value : Option Json) : List (String × Json) :=
  (value.map fun v => ("value", v)).toList

def LastResortEntry.toJson (e : LastResortEntry) : Json :=
  .object (("strategy", .string e.strategy.name) :: valueMember e.value)

def InferRules.toJson (r : InferRules) : Json :=
  .object ([("alternateKeys", strings r.alternateKeys),
    ("alternateQueries", strings r.alternateQueries)] ++
    (r.exhausted.map fun e => ("exhausted", e.toJson)).toList)

def FallbackEntry.toJson (f : FallbackEntry) : Json :=
  .object (("strategy", .string f.strategy.name) :: valueMember f.value ++
    (f.inferRules.map fun r => ("inferRules", r.toJson)).toList)

def fuzzyJson (f : FuzzyConfig) : Json :=
  .object [("enabled", .bool f.enabled), ("distance", count f.distance),
    ("limit", count f.limit), ("ignoreCase", .bool f.ignoreCase)]

def toJson (c : Config) : Json :=
  .object [("aliases", .array (c.aliases.map AliasEntry.toJson)),
    ("fallback", c.fallback.toJson), ("fuzzy", fuzzyJson c.fuzzy)]

end PathQuery.Config
