import PathQuery.Config.Reader
import PathQuery.Failure
import PathQuery.Policy
import PathQuery.Query.Parser

/-!
Compiling a configuration into a policy: paths are parsed, and strategies have the values that
belong to them and no others.
-/

namespace PathQuery.Config

abbrev Checked := Except ConfigFault

def trimStart (cs : List Char) : List Char :=
  cs.dropWhile Unicode.isWhiteSpace

/-- A text without white space around it. -/
def trim (s : String) : List Char :=
  (trimStart (trimStart s.toList).reverse).reverse

/-- A query without a condition. -/
def compilePath (owner : PathOwner) (path : String) : Checked Query :=
  match Query.parse path with
  | .error e => .error (.unparsablePath owner path e)
  | .ok q => if q.isPredicate then .error (.conditionPath owner path) else .ok q

/-- Names and trimmed paths of the aliases already compiled are given. -/
def compileAliases (names : List String) (paths : List (List Char)) :
    List AliasEntry → Checked (List Alias)
  | [] => .ok []
  | entry :: rest => do
    if (trim entry.name).isEmpty then throw .emptyAliasName
    if names.contains entry.name then throw (.duplicateAlias entry.name)
    if paths.contains (trim entry.path) then throw (.repeatedTarget entry.name entry.path)
    let target ← compilePath (.aliasTarget entry.name) entry.path
    let others ← compileAliases (entry.name :: names) (trim entry.path :: paths) rest
    return ⟨entry.name, target⟩ :: others

/-- Only the default strategy has a value, and it needs one. -/
def compileLastResort (owner : StrategyOwner) (strategy : Strategy) (value : Option Json) :
    Checked LastResort :=
  match strategy, value with
  | .default, some v => .ok (.substitute v)
  | .default, none => .error (.missingValue owner)
  | _, some _ => .error (.strayValue owner)
  | .error, none => .ok .fail
  | .skip, none => .ok .skip
  | .infer, none => .error (.nestedInfer owner)

def compileExhausted : Option LastResortEntry → Checked LastResort
  | some e => compileLastResort .exhausted e.strategy e.value
  | none => .ok .fail

/-- Empty keys are dropped. -/
def compileInfer (rules : InferRules) : Checked Fallback := do
  let keys := rules.alternateKeys.filter fun k => k != ""
  let queries ← rules.alternateQueries.mapM (compilePath .alternate)
  if keys.isEmpty && queries.isEmpty then throw .noAlternates
  return .infer keys queries (← compileExhausted rules.exhausted)

def compileFallback (f : FallbackEntry) : Checked Fallback :=
  match f.strategy, f.inferRules with
  | .infer, rules =>
    if f.value.isSome then .error (.strayValue .fallback)
    else
      match rules with
      | some rules => compileInfer rules
      | none => .error .missingInferRules
  | _, some _ => .error .strayInferRules
  | strategy, none => (compileLastResort .fallback strategy f.value).map .plain

def validate (c : Config) : Checked Policy := do
  let aliases ← compileAliases [] [] c.aliases
  return ⟨aliases, ← compileFallback c.fallback, c.fuzzy⟩

/-- The configuration that a text writes. -/
def load (text : String) : Checked Config :=
  match read? text with
  | some c => .ok c
  | none => .error .malformed

end PathQuery.Config
