import PathQuery.Lookup.Fuzzy
import PathQuery.Query.Node

/-!
The policy an evaluation runs under: aliases, what to do when a step does not resolve, and how
member names are matched.
-/

namespace PathQuery

/-- A name that stands for a path from the root. -/
structure Alias where
  name : String
  target : Query

/-- What to do in the end with a step that does not resolve. -/
inductive LastResort where
  | substitute (value : Json)
  | fail
  | skip

/-- What to do first: nothing, or look under other names and then along other paths. -/
inductive Fallback where
  | plain (last : LastResort)
  | infer (keys : List String) (queries : List Query) (last : LastResort)

def Fallback.error : Fallback :=
  .plain .fail

structure Policy where
  aliases : List Alias
  fallback : Fallback
  fuzzy : FuzzyConfig

namespace Policy

def standard : Policy :=
  ⟨[], .error, .standard⟩

/-- The path that a name stands for. -/
def target? (p : Policy) (name : String) : Option Query :=
  (p.aliases.find? fun a => a.name == name).map Alias.target

end Policy

end PathQuery
