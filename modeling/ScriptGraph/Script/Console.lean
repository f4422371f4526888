/-! # Consoles

What a script prints goes to a console, line by line, each at a level.
-/

namespace ScriptGraph.Script

/-- How urgent a line is. -/
inductive Level where
  | log
  | info
  | warn
  | error
  deriving DecidableEq

namespace Level

def name : Level → String
  | log => "log"
  | info => "info"
  | warn => "warn"
  | error => "error"

/-- The level of a name. An unknown name is that of a plain log. -/
def ofName (name : String) : Level :=
  ([log, info, warn, error].find? (·.name = name)).getD log

/-- Whether lines of the level are set apart from the output proper. -/
def isUrgent : Level → Bool
  | log | info => false
  | warn | error => true

end Level

/-- A line on a console. -/
structure Line where
  level : Level
  text : String
  deriving DecidableEq

end ScriptGraph.Script
