/-! # Statements

The lines of a generated routine. Those that bind or change a name say which; all others are plain
text.
-/

namespace ScriptGraph.Source

/-- How a name is bound. -/
inductive Keyword where
  | letBinding
  | constBinding
  deriving DecidableEq

def Keyword.text : Keyword → String
  | letBinding => "let"
  | constBinding => "const"

inductive Statement where
  /-- Binds a name, with or without a value. -/
  | declare (keyword : Keyword) (name : String) (value : Option String)
  /-- Binds several names without values. -/
  | declareAll (names : List String)
  | assign (name value : String)
  /-- Adds to the end of what a name holds. -/
  | append (name value : String)
  /-- Announces a node. -/
  | processing (kind : String)
  /-- Takes leave of a node. -/
  | finished (kind : String)
  | warning (message : String)
  | plain (text : String)
  deriving DecidableEq

def Statement.text : Statement → String
  | .declare keyword name none => s!"{keyword.text} {name}"
  | .declare keyword name (some value) => s!"{keyword.text} {name} = {value}"
  | .declareAll names => "let " ++ ", ".intercalate names
  | .assign name value => s!"{name} = {value}"
  | .append name value => s!"{name} += {value}"
  | .processing kind => s!"// Processing {kind} node"
  | .finished kind => s!"// Finished processing {kind} node"
  | .warning message => s!"// Warning: {message}"
  | .plain text => text

end ScriptGraph.Source
