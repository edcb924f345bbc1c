import PathQuery.Lookup.Fuzzy

/-!
Configurations as they are written: what a policy is compiled from.
-/

namespace PathQuery

inductive Strategy where
  | default
  | error
  | skip
  | infer
deriving DecidableEq

def Strategy.name : Strategy → String
  | default => "default"
  | error => "error"
  | skip => "skip"
  | infer => "infer"

namespace Config

structure AliasEntry where
  name : String
  path : String
deriving DecidableEq

/-- A strategy and the value that belongs to it; a null value is a value. -/
structure LastResortEntry where
  strategy : Strategy
  value : Option Json

structure InferRules where
  alternateKeys : List String
  alternateQueries : List String
  exhausted : Option LastResortEntry

structure FallbackEntry where
  strategy : Strategy
  value : Option Json
  inferRules : Option InferRules

def FallbackEntry.standard : FallbackEntry :=
  ⟨.error, none, none⟩

end Config

structure Config where
  aliases : List Config.AliasEntry
  fallback : Config.FallbackEntry
  fuzzy : FuzzyConfig

def Config.standard : Config :=
  ⟨[], .standard, .standard⟩

end PathQuery
