import ScriptGraph.Script.Console

/-! # Actions

What a command does to the world, one step after the other. Each step that gets something back goes
on with it, so that a command can be performed on real files as well as on a list of them.
-/

namespace ScriptGraph.Command

/-- The two streams that text is printed to. -/
inductive Stream where
  | output
  | errors
  deriving DecidableEq

/-! ### Reasons of a file system -/

def noSuchFile : String := "No such file or directory (os error 2)"

def notFolder : String := "Not a directory (os error 20)"

def isFolder : String := "Is a directory (os error 21)"

def nameTooLong : String := "File name too long (os error 36)"

/-- What is done, step by step. What fails gives its reason. -/
inductive Action where
  | read (path : String) (next : Except String String → Action)
  | write (path content : String) (next : Except String Unit → Action)
  | print (stream : Stream) (text : String) (next : Action)
  | pause (seconds : Float) (next : Action)
  /-- Asks for the time in nanoseconds. -/
  | clock (next : (nanoseconds : Nat) → Action)
  /-- Asks for a random word. -/
  | entropy (next : UInt64 → Action)
  | exit (code : UInt32)

namespace Action

/-- Prints lines and goes on. -/
def printLines (stream : Stream) (lines : List String) (next : Action) : Action :=
  .print stream (String.join (lines.map (· ++ "\n"))) next

/-- Prints one line and goes on. -/
def printLine (stream : Stream) (line : String) (next : Action) : Action :=
  .print stream (line ++ "\n") next

/-- Ends with an error message. -/
def fail (message : String) : Action :=
  .printLines .errors ["", s!"Error: {message}"] (.exit 1)

end Action

/-- The stream that a line of a console goes to. -/
def streamOf (level : Script.Level) : Stream :=
  if level.isUrgent then .errors else .output

end ScriptGraph.Command
