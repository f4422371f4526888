import ScriptGraph.Table

/-! # Names

The identifiers in use in one generated routine. Variables of the graph and temporaries are kept
apart: a temporary is no declared variable, and it never takes a name that a variable of the graph
has or will have.
-/

namespace ScriptGraph.Source

structure Names where
  /-- Declared variables with their types. -/
  declared : Table String String := {}
  /-- Names that belong to variables, declared or not. -/
  reserved : List String := []
  temporaries : List String := []

namespace Names

def reserve (n : Names) (name : String) : Names :=
  { n with reserved := name :: n.reserved }

def isDeclared (n : Names) (name : String) : Bool :=
  n.declared.contains name

def declare (n : Names) (name type : String) : Names :=
  { n with declared := n.declared.insert name type }

def typeOf? (n : Names) (name : String) : Option String :=
  n.declared.get? name

def isTaken (n : Names) (name : String) : Bool :=
  n.isDeclared name || n.reserved.contains name || n.temporaries.contains name

/-- The names derived from a base: the base itself, then the base with a number behind it. The number
has no upper limit: that a counter of 32 bits could overflow is left out. -/
def candidate (base : String) : Nat → String
  | 0 => base
  | counter + 1 => base ++ toString (counter + 1)

/-- How many names are taken, counted with repetitions. -/
def size (n : Names) : Nat :=
  n.declared.entries.length + n.reserved.length + n.temporaries.length

/-- The first free name from a counter on, if it comes within so many tries. The counter does not
overflow. -/
def firstFree (n : Names) (base : String) : (tries : Nat) → (counter : Nat) → String
  | 0, counter => candidate base counter
  | tries + 1, counter =>
    let name := candidate base counter
    if n.isTaken name then n.firstFree base tries (counter + 1) else name

/-- Takes the first free name derived from a base. Each taken name can stand in the way once. -/
def unique (n : Names) (base : String) : String × Names :=
  let name := n.firstFree base n.size 0
  (name, { n with temporaries := name :: n.temporaries })

end Names

end ScriptGraph.Source
