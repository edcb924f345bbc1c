import PathQuery.Config.Basic
import PathQuery.Json.Reader

/-!
Reading configurations from JSON text. A record is an object, or an array of its fields in order.
Unknown members are skipped without a look at what their values mean; a known member may not be
repeated.
-/

namespace PathQuery.Config

open Json (Source)

/-- The value of the only member of that name; several are a fault. -/
def onlyMember? (name : String) (members : List (String × Source)) : Option (Option Source) :=
  match members.filter fun m => m.1 == name with
  | [] => some none
  | [m] => some (some m.2)
  | _ => none

/-- The fields of a record, those that are left out being `none`. -/
def fields? (names : List String) : Source → Option (List (Option Source))
  | .object members => do
    let members ← members.mapM fun m => (Json.stringOfGlyphs? m.1).map fun name => (name, m.2)
    names.mapM fun name => onlyMember? name members
  | .array items =>
    if names.length < items.length then none
    else some (items.map some ++ List.replicate (names.length - items.length) none)
  | _ => none

def mandatory? {α : Type} (read : Source → Option α) : Option Source → Option α
  | some s => read s
  | none => none

def withDefault? {α : Type} (standard : α) (read : Source → Option α) : Option Source → Option α
  | some s => read s
  | none => some standard

/-- A field that may be left out or null. -/
def nullable? {α : Type} (read : Source → Option α) : Option Source → Option (Option α)
  | some .null => some none
  | some s => (read s).map some
  | none => some none

/-- A field that may be left out; null is a value like any other. -/
def present? {α : Type} (read : Source → Option α) : Option Source → Option (Option α)
  | some s => (read s).map some
  | none => some none

def string? : Source → Option String
  | .string text => Json.stringOfGlyphs? text
  | _ => none

def bool? : Source → Option Bool
  | .bool b => some b
  | _ => none

/-- An integer numeral without a sign, below `2 ^ 64`. -/
def count? : Source → Option Nat
  | .number n =>
    if n.isInteger && !n.negative && decide (n.digits < 1 <<< 64) then some n.digits else none
  | _ => none

def list? {α : Type} (read : Source → Option α) : Source → Option (List α)
  | .array items => items.mapM read
  | _ => none

def strategyOfName? (name : String) : Option Strategy :=
  [Strategy.default, .error, .skip, .infer].find? fun s => s.name == name

/-- The name of a strategy, or an object with that name as its only member and null as its value. -/
def strategy? : Source → Option Strategy
  | .string text => do strategyOfName? (← Json.stringOfGlyphs? text)
  | .object [(name, .null)] => do strategyOfName? (← Json.stringOfGlyphs? name)
  | _ => none

/-- A JSON value that stands inside `levels` records. -/
def value? (levels : Nat) : Source → Option Json :=
  Json.ofSource? (Json.maxDepth - levels)

def aliasEntry? (s : Source) : Option AliasEntry := do
  match ← fields? ["alias", "path"] s with
  | [name, path] => return ⟨← mandatory? string? name, ← mandatory? string? path⟩
  | _ => none

def lastResort? (s : Source) : Option LastResortEntry := do
  match ← fields? ["strategy", "value"] s with
  | [strategy, value] =>
    return ⟨← mandatory? strategy? strategy, ← present? (value? 4) value⟩
  | _ => none

def inferRules? (s : Source) : Option InferRules := do
  match ← fields? ["alternateKeys", "alternateQueries", "exhausted"] s with
  | [keys, queries, exhausted] =>
    return ⟨← withDefault? [] (list? string?) keys, ← withDefault? [] (list? string?) queries,
      ← nullable? lastResort? exhausted⟩
  | _ => none

def fallback? (s : Source) : Option FallbackEntry := do
  match ← fields? ["strategy", "value", "inferRules"] s with
  | [strategy, value, rules] =>
    return ⟨← withDefault? .error strategy? strategy, ← present? (value? 2) value,
      ← nullable? inferRules? rules⟩
  | _ => none

def fuzzy? (s : Source) : Option FuzzyConfig := do
  let standard := FuzzyConfig.standard
  match ← fields? ["enabled", "distance", "limit", "ignoreCase"] s with
  | [enabled, distance, limit, ignoreCase] =>
    return ⟨← withDefault? standard.enabled bool? enabled,
      ← withDefault? standard.distance count? distance,
      ← withDefault? standard.limit count? limit,
      ← withDefault? standard.ignoreCase bool? ignoreCase⟩
  | _ => none

def ofSource? (s : Source) : Option Config := do
  match ← fields? ["aliases", "fallback", "fuzzy"] s with
  | [aliases, fallback, fuzzy] =>
    return ⟨← withDefault? [] (list? aliasEntry?) aliases,
      ← withDefault? .standard fallback? fallback,
      ← withDefault? .standard fuzzy? fuzzy⟩
  | _ => none

/-- The configuration that a text writes, if it writes one. -/
def read? (text : String) : Option Config := do
  ofSource? (← Source.ofChars? text.toList)

end PathQuery.Config
