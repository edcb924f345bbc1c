import PathQuery.Config.Validation
import PathQuery.Evaluation.Evaluator

/-!
Checking a query: its syntax and the configuration alone, or also its result on a document.
-/

namespace PathQuery

/-- Why a file cannot be read, and the number of that cause. -/
structure FileFault where
  description : String
  number : Nat
deriving DecidableEq

namespace FileFault

def noSuchFile : FileFault := ⟨"No such file or directory", 2⟩

def message (f : FileFault) : String :=
  f.description ++ " (os error " ++ toString f.number ++ ")"

end FileFault

/-- What a command can fail with. -/
inductive CommandError where
  | query (e : QueryError)
  | invalidJson
  | fileError (fault : FileFault)
  | noInput
  | unknownCategory (name : String)

namespace CommandError

/-- An error of the engine with its code, and a hint if there is one. -/
def queryMessage (e : QueryError) : String :=
  let first := e.message ++ " [" ++ e.code ++ "]"
  match e.hint? with
  | some hint => first ++ "\n  hint: " ++ hint
  | none => first

def message : CommandError → String
  | query e => queryMessage e
  | invalidJson => "Invalid JSON"
  | fileError fault => "IO error: " ++ fault.message
  | noInput => "No input provided. Use --input or pipe JSON to stdin."
  | unknownCategory name =>
    "Unknown category: '" ++ name ++ "'\nRun 'jsift docs' to see available categories."

/-- A bad query or configuration is told apart from other failures. -/
def exitCode : CommandError → Nat
  | query (.syntaxError _) => 2
  | query (.invalidConfig _) => 2
  | _ => 1

end CommandError

/-- How a command ends without a result. Behind an error stands an exit code. An evaluation that
never ends overflows the stack, and a sort that has no order to go by may panic: both abort the
process, which has no exit code then. -/
inductive CommandHalt where
  | error (e : CommandError)
  | overflow
  | disorder (items : List Json)

def CommandHalt.ofHalt : Halt → CommandHalt
  | .error e => error (.query e)
  | .circular => overflow
  | .disorder items => disorder items

/-- Evaluates a query text on a document. The configuration is looked at before the query. -/
def evaluate (query : String) (document : Json) (config : Config) : Outcome Output :=
  match config.validate with
  | .error fault => .fail (.invalidConfig fault)
  | .ok policy =>
    match Query.parse query with
    | .error e => .fail (.syntaxError e)
    | .ok q => (Engine.ofPolicy policy).evalQuery q document

/-- What to check. Without a configuration the standard one is taken. -/
structure CheckRequest where
  query : String
  input : Option String
  config : Option String
  syntaxOnly : Bool

inductive CheckResult where
  | syntaxValid
  | output (o : Output)

def loadConfig : Option String → Except CommandError Config
  | none => .ok .standard
  | some text =>
    match Config.load text with
    | .ok c => .ok c
    | .error fault => .error (.query (.invalidConfig fault))

/-- Whether the configuration and the query are well formed. -/
def checkSyntax (query : String) (config : Config) : Except CommandError Unit :=
  match config.validate with
  | .error fault => .error (.query (.invalidConfig fault))
  | .ok _ =>
    match Query.parse query with
    | .error e => .error (.query (.syntaxError e))
    | .ok _ => .ok ()

def CheckRequest.run (r : CheckRequest) : Except CommandHalt CheckResult := do
  let config ← (loadConfig r.config).mapError .error
  if r.syntaxOnly then
    (checkSyntax r.query config).mapError .error
    return .syntaxValid
  else
    match r.input with
    | none => throw (.error .noInput)
    | some text =>
      match Json.read? text with
      | none => throw (.error .invalidJson)
      | some document =>
        match evaluate r.query document config with
        | .ok o => return .output o
        | .error h => throw (.ofHalt h)

end PathQuery
