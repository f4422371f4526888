import ScriptGraph.Graph.Walk
import ScriptGraph.Script.Console
import ScriptGraph.Script.Draw
import ScriptGraph.Script.Value

/-! # Runs

The state of one run and what an executor may do with it. Everything that happens is logged in
order: nodes, lines, failures, requests, iterations of loops, and values recorded and bound. A fault
ends the execution of a node and leaves the state as it is then.
-/

namespace ScriptGraph.Script

open Json (Value)

/-- A failure of a node from which the run went on. -/
structure Diagnostic where
  node : NodeId
  kind : String
  fault : Fault

def Diagnostic.message (d : Diagnostic) : String :=
  s!"{d.kind} node '{d.node.text}': {d.fault.message}"

/-- What happens in a run. -/
inductive Event where
  /-- The execution of a node begins. -/
  | node (id : NodeId)
  /-- A line for the console. -/
  | print (line : Line)
  /-- A line that tells how the run goes, for whoever wants to know. -/
  | trace (text : String)
  | failure (diagnostic : Diagnostic)
  /-- A request was made, and this came back, if anything. -/
  | request (request : Http.Request) (response : Option Http.Response)
  /-- The run pauses. -/
  | pause (seconds : Float)
  /-- A loop begins its body once more. -/
  | iteration (body : PortRef)
  /-- A node produced a value. -/
  | record (output : PortRef) (value : Value)
  /-- A variable was given a value. -/
  | bind (name : String) (value : Value)
  /-- Whoever supplied an executor may leave notes. -/
  | note (content : Value)

/-- The line that an event puts on the console. Traces and failures show in debug mode only. -/
def Event.line? (debug : Bool) : Event → Option Line
  | .print line => some line
  | .trace text => if debug then some ⟨.log, text⟩ else none
  | .failure d =>
    if debug then
      some ⟨.error, s!"{d.kind} node ({d.node.text}) failed: {d.fault.message}"⟩
    else none
  | _ => none

/-- What does not change in a run. -/
structure Setting extends Workspace where
  /-- How often one execution of a loop may run its body. -/
  maxLoopIterations : Nat
  exchange : Http.Exchange
  draws : Draws

/-- The state of a run. -/
structure Machine where
  log : Array Event := #[]
  /-- Whether the console shows how the run goes. -/
  debug : Bool := false
  /-- The lines that have been written on the console. -/
  console : Array Line := #[]
  /-- The values recorded last. -/
  outputs : Table PortRef Value := {}
  bindings : Table String Value := {}
  visited : VisitSet := {}
  /-- How many words have been drawn. -/
  drawn : Nat := 0
  /-- How many requests have been sent. -/
  sent : Nat := 0

abbrev RunM := StateM Machine

/-- Does what a node is there for and tells where to go, or fails; `visit` walks on to another
node. -/
abbrev Executor := Setting → (visit : Node → RunM Unit) → Node → ExceptT Fault RunM Flow

/-- Logs what happens, and writes the line that shows it on the console, if there is one. -/
def log (e : Event) : RunM Unit :=
  modify fun m =>
    { m with log := m.log.push e, console := m.console ++ (e.line? m.debug).toArray }

def print (level : Level) (text : String) : RunM Unit :=
  log (.print ⟨level, text⟩)

def trace (text : String) : RunM Unit :=
  log (.trace text)

def note (content : Value) : RunM Unit :=
  log (.note content)

/-- Reports a failure of a node from which the run goes on. -/
def diagnose (node : Node) (fault : Fault) : RunM Unit :=
  log (.failure ⟨node.id, node.kind, fault⟩)

/-- Records the value that a node produced on an output. -/
def record (node : Node) (port : Nat) (value : Value) : RunM Unit := do
  log (.record ⟨node.id, port⟩ value)
  modify fun m => { m with outputs := m.outputs.insert ⟨node.id, port⟩ value }

def variableValue? (name : String) : RunM (Option Value) := do
  return (← get).bindings.get? name

def setVariable (name : String) (value : Value) : RunM Unit := do
  log (.bind name value)
  modify fun m => { m with bindings := m.bindings.insert name value }

namespace Setting

variable (s : Setting)

def props (node : Node) : Props :=
  s.registry.props node

/-- The name of a variable node. -/
def variableName (node : Node) : String :=
  (s.props node).text "name"

/-- The value that a variable node gives its variable at first. -/
def initialValue (node : Node) : Value :=
  let props := s.props node
  let initial := props.text "initialValue"
  if initial.isEmpty then .null else typedValue (props.text "type") initial

/-- What the run offers to readers of inputs. -/
def outputSource (m : Machine) : OutputSource Value where
  variableReference node := m.bindings.get? (s.variableName node)
  recorded output := m.outputs.get? output
  literalDefault node :=
    if node.kind = Kind.constant.name then
      let props := s.props node
      some (typedValue (props.text "type") (props.text "value"))
    else none

/-- The variable node that an input is wired to. -/
def producerVariable? (node : Node) (index : Nat) : Option Node :=
  match s.producer? node index with
  | some (producer, _) => if producer.kind = Kind.var.name then some producer else none
  | none => none

/-- Gives the variable behind an input its initial value unless it has a value or no name. -/
def bindProducer (node : Node) (index : Nat) : RunM Unit := do
  match s.producerVariable? node index with
  | none => pure ()
  | some producer =>
    let name := s.variableName producer
    if name ≠ "" ∧ (← variableValue? name).isNone then
      setVariable name (s.initialValue producer)

/-- The value that flows into an input. The first read of a variable binds it. -/
def input (node : Node) (index : Nat) : RunM (Option Value) := do
  s.bindProducer node index
  return s.resolveInput (s.outputSource (← get)) node index

/-- The name of an input, or its number where the kind does not name it. -/
def inputName (node : Node) (index : Nat) : String :=
  match (s.registry.portsOf? node).bind (·.inputs[index]?) with
  | some port => port.name
  | none => toString index

def requireInput (node : Node) (index : Nat) : ExceptT Fault RunM Value := do
  match ← s.input node index with
  | some value => return value
  | none => throw (.missingInput (s.inputName node index))

/-- Gives a new value to the variable that an input is wired to. -/
def writeBack (node : Node) (index : Nat) (value : Value) : RunM Unit :=
  match s.producerVariable? node index with
  | some producer => setVariable (s.variableName producer) value
  | none => pure ()

/-- Records a value on the first data output of a node, if it has one. -/
def recordPrimary (node : Node) (value : Value) : RunM Unit :=
  match (s.registry.portsOf? node).bind (·.primaryOutput?) with
  | some port => record node port value
  | none => pure ()

/-- Runs what one output leads to. What is entered on the way does not count as entered after. -/
def iterate (visit : Node → RunM Unit) (node : Node) (port : Nat) : RunM Unit := do
  log (.iteration ⟨node.id, port⟩)
  let scope := (← get).visited
  s.branch visit node port
  modify fun m => { m with visited := scope }

/-- The next word of the stream. -/
def draw : RunM UInt64 := do
  let position := (← get).drawn
  modify fun m => { m with drawn := position + 1 }
  return s.draws position

/-- Sends a request and waits for what comes back. -/
def send (request : Http.Request) : RunM (Option Http.Response) := do
  let number := (← get).sent
  let response := s.exchange number request
  modify fun m => { m with sent := number + 1 }
  log (.request request response)
  return response

end Setting

end ScriptGraph.Script
