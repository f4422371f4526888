import ScriptGraph.Command.Perform

/-! # The program

Performs what the arguments ask for on real files and streams.
-/

namespace ScriptGraph

open Command

/-- Whether an error has a code. Some calls give codes as their negatives. -/
def hasCode (code expected : UInt32) : Bool :=
  code = expected || code + expected = 0

/-- Why a file cannot be read or written, as the system puts it. -/
def reasonOf : IO.Error → String
  | .noFileOrDirectory _ _ _ => noSuchFile
  | .permissionDenied _ _ _ => "Permission denied (os error 13)"
  | .inappropriateType _ code _ => if hasCode code 21 then isFolder else notFolder
  | .invalidArgument _ code _ =>
    if hasCode code 36 then nameTooLong else "Invalid argument (os error 22)"
  | .userError _ => "stream did not contain valid UTF-8"
  | error => toString error

/-- The result of an action, or the reason why it failed. -/
def attempt {α : Type} (action : IO α) : IO (Except String α) := do
  try return .ok (← action)
  catch error => return .error (reasonOf error)

/-- Performs an action and gives the exit code. -/
def perform : Action → IO UInt32
  | .read path next => do perform (next (← attempt (IO.FS.readFile path)))
  | .write path content next => do perform (next (← attempt (IO.FS.writeFile path content)))
  | .print .output text next => do
    IO.print text
    perform next
  | .print .errors text next => do
    IO.eprint text
    perform next
  | .pause seconds next => do
    IO.sleep (seconds * 1000).toUInt32
    perform next
  | .clock next => do perform (next (← IO.monoNanosNow))
  | .entropy next => do
    let bytes ← IO.getRandomBytes 8
    perform (next (bytes.toList.foldl (fun word b => word * 256 + b.toUInt64) 0))
  | .exit code => return code

end ScriptGraph

def main (arguments : List String) : IO UInt32 :=
  ScriptGraph.perform (ScriptGraph.Command.actionOf arguments)
