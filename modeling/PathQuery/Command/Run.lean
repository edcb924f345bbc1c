import PathQuery.Command.Arguments
import PathQuery.Command.Check
import PathQuery.Command.Help
import PathQuery.Command.Manual

/-!
Running a command on texts alone: the caller has read the standard input and the configuration file.
-/

namespace PathQuery

/-- What a command leaves behind. -/
structure Answer where
  exit : Nat
  stdout : String
  stderr : String
deriving DecidableEq

def Answer.done (stdout : String) : Answer :=
  ⟨0, stdout, ""⟩

def Answer.failed (e : CommandError) : Answer :=
  ⟨e.exitCode, "", e.message ++ "\n"⟩

namespace Command

/-- The file a command reads its configuration from. -/
def configFile? : Command → Option String
  | check args => args.config
  | _ => none

/-- Whether a command takes its document from the standard input. -/
def readsInput : Command → Bool
  | check args => args.input.isNone && !args.syntaxOnly
  | _ => false

/-- The page of a category, under any of its names. -/
def page (category : String) : Except CommandError String :=
  match Manual.Category.ofName? category with
  | some c => .ok (Manual.page c)
  | none => .error (.unknownCategory category)

def outputText (pretty : Bool) (o : Output) : String :=
  if pretty then o.toJson.pretty else o.toJson.compact

/-- Checks a query; `config` is the text of the configuration file, or why it could not be read. -/
def runCheck (args : CheckArguments) (input : Option String)
    (config : Option (Except FileFault String)) : Except CommandHalt String := do
  let config ← match config with
    | none => pure none
    | some (.ok text) => pure (some text)
    | some (.error fault) => throw (.error (.fileError fault))
  match ← CheckRequest.run ⟨args.query, input, config, args.syntaxOnly⟩ with
  | .syntaxValid => return "Syntax is valid\n"
  | .output o => return outputText args.pretty o ++ "\n"

/-- No answer where the process is aborted. -/
def answer? : Except CommandHalt String → Option Answer
  | .ok text => some (.done text)
  | .error (.error e) => some (.failed e)
  | .error .overflow | .error (.disorder _) => none

/-- Runs a command. The standard input counts only where the command reads it. -/
def run (c : Command) (stdin : Option String) (config : Option (Except FileFault String)) :
    Option Answer :=
  match c with
  | check args => answer? (runCheck args (if c.readsInput then stdin else args.input) config)
  | docs => some (.done Manual.overview)
  | doc category => answer? ((page category).mapError .error)
  | help topic => some (.done (helpText topic))
  | version => some (.done versionText)

/-- What arguments that give no command lead to. -/
def usageFailure : Answer :=
  ⟨2, "", usageText⟩

end Command

end PathQuery
