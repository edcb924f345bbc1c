import PathQuery.Query.Fault
import PathQuery.Query.Printer

/-!
Everything an evaluation can fail with, kept as causes; the wording is in the `message` functions.
-/

namespace PathQuery

/-- Values or nodes of the wrong type for what is done with them. -/
inductive Mismatch where
  | unordered (op : Comparator) (left right : Json.Kind)
  | notCondition (node : Node)
  | notOperand (node : Node)
  | manyValues (node : Node) (count : Nat)
  | notScalar (node : Node) (kind : Json.Kind)
  | notStep (node : Node)
  | notArgument (function : String) (node : Node)
  | emptyArgument (function : String) (node : Node)
  | notObject (function : String) (kind : Json.Kind)
  | notNumber (function : String) (kind : Json.Kind)
  | incomparable (function : String) (left right : Json.Kind)
  | noLength (kind : Json.Kind)
  | filterCondition (node : Node)
  | unsortable (left right : Json.Kind)
  | patternKind (kind : Json.Kind)
  | invalidPattern

def Mismatch.message : Mismatch → String
  | unordered op left right =>
    "Cannot compare " ++ left.name ++ " " ++ op.symbol ++ " " ++ right.name ++
      " (ordering requires two numbers or two strings)"
  | notCondition node => "'" ++ node.text ++ "' is not a comparison or condition"
  | notOperand node => "'" ++ node.text ++ "' cannot be used as a comparison operand"
  | manyValues node count =>
    "comparison operand '" ++ node.text ++ "' resolved to " ++ toString count ++
      " values, expected one"
  | notScalar node kind =>
    "comparison operand '" ++ node.text ++ "' is " ++ kind.name ++ ", expected a scalar"
  | notStep node => "'" ++ node.text ++ "' cannot be used as a path step"
  | notArgument function node =>
    function ++ "() cannot use '" ++ node.text ++ "' as an argument"
  | emptyArgument function node =>
    function ++ "() argument '" ++ node.text ++ "' resolved to nothing"
  | notObject function kind => function ++ "() requires objects, got " ++ kind.name
  | notNumber function kind => function ++ "() requires numbers, got " ++ kind.name
  | incomparable function left right =>
    function ++ "() cannot compare " ++ left.name ++ " with " ++ right.name
  | noLength kind => "length() requires array, object or string, got " ++ kind.name
  | filterCondition node => "filter() requires a condition, got '" ++ node.text ++ "'"
  | unsortable left right => "sort() cannot order " ++ left.name ++ " with " ++ right.name
  | patternKind kind => "matches() pattern must be string, got " ++ kind.name
  | invalidPattern => "invalid regex: the pattern is malformed"

/-- Whose path a configuration gives. -/
inductive PathOwner where
  | aliasTarget (name : String)
  | alternate

def PathOwner.text : PathOwner → String
  | aliasTarget name => "alias '" ++ name ++ "'"
  | alternate => "alternate query"

/-- Where a configuration names a strategy. -/
inductive StrategyOwner where
  | fallback
  | exhausted

def StrategyOwner.text : StrategyOwner → String
  | fallback => "fallback"
  | exhausted => "fallback.inferRules.exhausted"

/-- What can be wrong with a configuration. -/
inductive ConfigFault where
  | malformed
  | emptyAliasName
  | duplicateAlias (name : String)
  | repeatedTarget (name path : String)
  | unparsablePath (owner : PathOwner) (path : String) (cause : SyntaxError)
  | conditionPath (owner : PathOwner) (path : String)
  | strayInferRules
  | strayValue (owner : StrategyOwner)
  | missingInferRules
  | missingValue (owner : StrategyOwner)
  | nestedInfer (owner : StrategyOwner)
  | noAlternates

def ConfigFault.message : ConfigFault → String
  | malformed => "malformed configuration"
  | emptyAliasName => "alias name cannot be empty"
  | duplicateAlias name => "duplicate alias '" ++ name ++ "'"
  | repeatedTarget name path => "alias '" ++ name ++ "' repeats target path '" ++ path ++ "'"
  | unparsablePath owner path _ => owner.text ++ " has an unparsable path '" ++ path ++ "'"
  | conditionPath owner path =>
    owner.text ++ " must be a path, not a condition: '" ++ path ++ "'"
  | strayInferRules => "fallback.inferRules is only allowed with the 'infer' strategy"
  | strayValue owner => owner.text ++ ".value is only allowed with the 'default' strategy"
  | missingInferRules => "the 'infer' strategy requires fallback.inferRules"
  | missingValue owner => "the 'default' strategy requires " ++ owner.text ++ ".value"
  | nestedInfer owner => owner.text ++ " cannot nest the 'infer' strategy"
  | noAlternates => "fallback.inferRules needs at least one alternate key or query"

/-- A failure of the engine. `missing` is the step, or the property, that did not resolve. -/
inductive QueryError where
  | syntaxError (e : SyntaxError)
  | pathNotFound (missing : Node) (position : Nat)
  | typeMismatch (m : Mismatch)
  | unknownFunction (name : String)
  | arity (name : String) (least greatest got : Nat)
  | invalidConfig (fault : ConfigFault)

/-- How many arguments a function takes. -/
def arityText (least greatest : Nat) : String :=
  if least = greatest then toString least ++ " argument(s)"
  else toString least ++ " to " ++ toString greatest ++ " arguments"

def SyntaxError.text (e : SyntaxError) : String :=
  e.message ++ " at position " ++ toString e.position

namespace QueryError

def message : QueryError → String
  | syntaxError e => "Syntax error: " ++ e.text
  | pathNotFound missing position =>
    "Path not found: " ++ missing.text ++ " at position " ++ toString position
  | typeMismatch m => "Type mismatch: " ++ m.message
  | unknownFunction name => "Unknown function: " ++ name ++ "()"
  | arity name least greatest got =>
    "Arity error: " ++ name ++ "() expects " ++ arityText least greatest ++ ", got " ++ toString got
  | invalidConfig fault => "Invalid config: " ++ fault.message

/-- Stable name of the kind of error. -/
def code : QueryError → String
  | syntaxError _ => "E_SYNTAX"
  | pathNotFound .. => "E_PATH_NOT_FOUND"
  | typeMismatch _ => "E_TYPE_MISMATCH"
  | unknownFunction _ => "E_UNKNOWN_FUNCTION"
  | arity .. => "E_ARITY"
  | invalidConfig _ => "E_INVALID_CONFIG"

def hint? : QueryError → Option String
  | syntaxError _ => some "check the query near the reported position"
  | pathNotFound .. =>
    some "configure a `default`, `skip` or `infer` fallback, or enable fuzzy matching"
  | unknownFunction _ => some "run `jsift doc functions` for the list of built-ins"
  | arity .. => some "check the number of arguments in the call"
  | typeMismatch _ | invalidConfig _ => none

def position? : QueryError → Option Nat
  | syntaxError e => some e.position
  | pathNotFound _ position => some position
  | _ => none

end QueryError

end PathQuery
