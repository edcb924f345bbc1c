import PathQuery.Command.Run

/-!
The command line program: reads what the command asks for and writes what it answers.
-/

namespace PathQuery

/-- The standard input, unless it is a terminal. -/
def readInput (wanted : Bool) : IO (Option String) := do
  let stdin ← IO.getStdin
  if !wanted || (← stdin.isTty) then return none
  else return some (← stdin.readToEnd)

/-- The cause that the system gives for a failure. -/
def faultOf : IO.Error → FileFault
  | .noFileOrDirectory .. => .noSuchFile
  | .inappropriateType _ number description => ⟨description, number.toNat⟩
  | .invalidArgument _ number description => ⟨description, number.toNat⟩
  | .permissionDenied _ number description => ⟨description, number.toNat⟩
  | .resourceExhausted _ number description => ⟨description, number.toNat⟩
  | .otherError number description => ⟨description, number.toNat⟩
  | e => ⟨toString e, 0⟩

/-- The text of a file, or why it cannot be read. -/
def readFile (path : String) : IO (Except FileFault String) := do
  try
    return .ok (← IO.FS.readFile path)
  catch e =>
    return .error (faultOf e)

/-- What a shell gives as the exit code of an aborted process. -/
def abortedCode : UInt32 := 134

end PathQuery

open PathQuery in
def main (args : List String) : IO UInt32 := do
  let answer ← match Command.ofArguments? args with
    | none => pure (some Command.usageFailure)
    | some c =>
      let input ← readInput c.readsInput
      let config ← match c.configFile? with
        | some path => some <$> readFile path
        | none => pure none
      pure (c.run input config)
  match answer with
  | some answer =>
    (← IO.getStdout).putStr answer.stdout
    (← IO.getStderr).putStr answer.stderr
    return UInt32.ofNat answer.exit
  | none => return abortedCode
