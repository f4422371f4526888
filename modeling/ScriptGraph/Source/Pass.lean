import ScriptGraph.Graph.Walk
import ScriptGraph.Source.Literal
import ScriptGraph.Source.Names
import ScriptGraph.Source.Options
import ScriptGraph.Source.Statement
import ScriptGraph.Source.Writer

/-! # Generation passes

The state of one generation and what an emitter may do with it. Everything that happens is logged in
order: nodes, lines, blocks, inputs read and outputs recorded. The generated text is written from
the log.
-/

namespace ScriptGraph.Source

/-- What happens in a pass. -/
inductive Event where
  /-- The emission of a node begins. -/
  | node (id : NodeId)
  | write (statement : Statement)
  | blank
  | indent
  | dedent
  /-- An input was read, with the expression that flows into it. -/
  | read (input : PortRef) (expression : Option String)
  /-- A node produced an expression. -/
  | record (output : PortRef) (expression : String)
  /-- A temporary was taken. -/
  | fresh (name : String)
  /-- A variable of the graph was declared. -/
  | declare (name : String)
  /-- Whoever supplied an emitter may leave notes. -/
  | note (content : Json.Value)

/-- What an event does to the text. -/
def Event.step? : Event → Option Step
  | .write statement => some (.line statement.text)
  | .blank => some .blank
  | .indent => some .indent
  | .dedent => some .dedent
  | _ => none

/-- What does not change in a pass. -/
structure Setting extends Workspace where
  options : Options

/-- The state of a pass. -/
structure Draft where
  log : Array Event := #[]
  /-- How many blocks are open. -/
  depth : Nat
  names : Names := {}
  /-- The expressions recorded last. -/
  outputs : Table PortRef String := {}
  visited : VisitSet := {}
  /-- Variables whose declaration has to move to the top of the routine. -/
  hoisted : List String := []

abbrev EmitM := StateM Draft

/-- Writes the statements of a node and tells where to go; `visit` walks on to another node. -/
abbrev Emitter := Setting → (visit : Node → EmitM Unit) → Node → EmitM Flow

/-- The depth of the blocks in which the statements of the routine stand. -/
def routineDepth : Nat := 1

def log (e : Event) : EmitM Unit :=
  modify fun d => { d with log := d.log.push e }

def write (s : Statement) : EmitM Unit :=
  log (.write s)

/-- Writes a line of source text. -/
def line (text : String) : EmitM Unit :=
  write (.plain text)

def indent : EmitM Unit := do
  log .indent
  modify fun d => { d with depth := d.depth + 1 }

def dedent : EmitM Unit := do
  log .dedent
  modify fun d => { d with depth := d.depth - 1 }

def warn (message : String) : EmitM Unit :=
  write (.warning message)

def note (content : Json.Value) : EmitM Unit :=
  log (.note content)

/-- Takes a temporary named after a base. -/
def freshName (base : String) : EmitM String := do
  let (name, names) := (← get).names.unique base
  modify fun d => { d with names }
  log (.fresh name)
  return name

def isDeclared (name : String) : EmitM Bool := do
  return (← get).names.isDeclared name

/-- Records the expression that a node produced on an output. -/
def record (node : Node) (port : Nat) (expression : String) : EmitM Unit := do
  log (.record ⟨node.id, port⟩ expression)
  modify fun d => { d with outputs := d.outputs.insert ⟨node.id, port⟩ expression }

/-- A property value as a reference to a declared name, as a number or truth value, or as a text. -/
def literalOrReference (text : String) : EmitM String := do
  let trimmed := Text.trim text
  if ← isDeclared trimmed then return trimmed
  else if trimmed = "true" ∨ trimmed = "false" ∨ (Decimal.read? trimmed).isSome then
    return trimmed
  else return Json.quote text

namespace Setting

variable (s : Setting)

def props (node : Node) : Props :=
  s.registry.props node

/-- The name of a variable node. -/
def variableName (node : Node) : String :=
  (s.props node).text "name"

/-- Whether some node can assign a variable after its declaration: one of its nodes has its value
wired, or it has several nodes. -/
def isReassigned (name : String) : Bool :=
  let nodes := (s.graph.nodesOfKind Kind.var.name).filter (s.variableName · = name)
  1 < nodes.length || nodes.any fun node => (s.graph.edgeInto node.id 1).isSome

/-- The keyword for a name that is bound once, with its value. -/
def resultKeyword : Keyword :=
  if s.options.preferConst then .constBinding else .letBinding

/-- Declares the variable of a node, with the value assigned to it or else its initial value. Inside
of a block the declaration is left to the top of the routine and only the assignment stays, so that
later reads are in scope. -/
def declareVariable (node : Node) (assigned : Option String) : EmitM Unit := do
  let props := s.props node
  let name := props.text "name"
  let type := props.text "type"
  let initial := props.text "initialValue"
  let value := assigned.or (if initial.isEmpty then none else some (typedLiteral type initial))
  modify fun d => { d with names := d.names.declare name type }
  log (.declare name)
  if routineDepth < (← get).depth then
    modify fun d => { d with hoisted := d.hoisted ++ [name] }
    match value with
    | some value => write (.assign name value)
    | none => pure ()
  else
    let isConst := value.isSome && s.options.preferConst && !s.isReassigned name
    write (.declare (if isConst then .constBinding else .letBinding) name value)

/-- What the pass offers to readers of inputs. -/
def outputSource (d : Draft) : OutputSource String where
  variableReference node := (s.props node).nonEmpty? "name"
  recorded output := d.outputs.get? output
  literalDefault node :=
    if node.kind = Kind.constant.name then
      let props := s.props node
      some (typedLiteral (props.text "type") (props.text "value"))
    else none

/-- Declares the variable behind an input unless that has been done or it has no name. -/
def declareProducer (node : Node) (index : Nat) : EmitM Unit := do
  match s.producer? node index with
  | none => pure ()
  | some (producer, _) =>
    let name := s.variableName producer
    if producer.kind = Kind.var.name ∧ name ≠ "" then
      unless ← isDeclared name do
        s.declareVariable producer none

/-- The expression that flows into an input. The first read of a variable declares it. -/
def input (node : Node) (index : Nat) : EmitM (Option String) := do
  s.declareProducer node index
  let expression := s.resolveInput (s.outputSource (← get)) node index
  log (.read ⟨node.id, index⟩ expression)
  return expression

/-- Records an expression on the first data output of a node, if it has one. -/
def recordPrimary (node : Node) (expression : String) : EmitM Unit :=
  match (s.registry.portsOf? node).bind (·.primaryOutput?) with
  | some port => record node port expression
  | none => pure ()

end Setting

end ScriptGraph.Source
