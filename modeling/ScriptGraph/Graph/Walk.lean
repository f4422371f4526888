import ScriptGraph.Kind.Registry

/-! # Walking a graph

Every pass walks from each entry node, depth first along control edges, and enters a node at most
once. What to do at a node, and which of its control outputs to follow, is up to the pass.
-/

namespace ScriptGraph

/-- Where to go once a node is done. -/
inductive Flow where
  /-- Along every control output, in port order. -/
  | proceed
  /-- Along one output. -/
  | follow (port : Nat)
  /-- Nowhere; what there was to walk has been walked. -/
  | halt
  deriving DecidableEq

/-- The nodes entered so far, the last one first. -/
structure VisitSet where
  visited : List NodeId := []

namespace VisitSet

def contains (s : VisitSet) (id : NodeId) : Bool :=
  s.visited.contains id

/-- Enters a node, and tells whether it was new. -/
def enter (s : VisitSet) (id : NodeId) : Bool × VisitSet :=
  if s.contains id then (false, s) else (true, ⟨id :: s.visited⟩)

def size (s : VisitSet) : Nat :=
  s.visited.length

end VisitSet

/-- A graph and the registry that explains its kinds. -/
structure Workspace where
  graph : Graph
  registry : Registry

namespace Workspace

/-- Where traversal starts, in document order. -/
def entryNodes (w : Workspace) : List Node :=
  w.graph.nodes.toList.filter fun node => w.registry.isEntry node.kind

/-- Whether any node is asynchronous. -/
def requiresAsync (w : Workspace) : Bool :=
  w.graph.nodes.any fun node => w.registry.requiresAsync node.kind

/-- Puts an edge in front of the first that leaves the same or a later port. -/
def insertByPort (edge : Edge) : List Edge → List Edge
  | [] => [edge]
  | other :: rest =>
    if edge.source.port ≤ other.source.port then edge :: other :: rest
    else other :: insertByPort edge rest

/-- The edges by output port; those of one port keep their order. -/
def sortByPort (edges : List Edge) : List Edge :=
  edges.foldr insertByPort []

/-- Whether an edge that leaves the node carries control. At a node of unknown kind every edge
does. -/
def isControl (w : Workspace) (node : Node) (edge : Edge) : Bool :=
  match w.registry.portsOf? node with
  | some ports => ports.outputKind? edge.source.port = some .control
  | none => true

/-- The targets of the control edges that leave a node, by output port. With a port given, only of
those that leave it. Edges to missing nodes are passed over. -/
def controlSuccessors (w : Workspace) (node : Node) (port : Option Nat) : List Node :=
  let edges := (w.graph.edgesFrom node.id).toList
  let followed := edges.filter fun edge =>
    port.all (edge.source.port = ·) && w.isControl node edge
  (sortByPort followed).filterMap fun edge => w.graph.findNode edge.target.node

/-- The node behind an input port, and which of its outputs the edge leaves. -/
def producer? (w : Workspace) (node : Node) (input : Nat) : Option (Node × Nat) := do
  let edge ← w.graph.edgeInto node.id input
  return (← w.graph.findNode edge.source.node, edge.source.port)

/-- Visits what the control edges that leave one output lead to. -/
def branch {m : Type → Type} [Monad m] (w : Workspace) (visit : Node → m Unit) (node : Node)
    (port : Nat) : m Unit :=
  (w.controlSuccessors node (some port)).forM visit

end Workspace

/-- What a pass has produced so far, for whoever reads an input. -/
structure OutputSource (α : Type) where
  /-- What reading a variable node gives. -/
  variableReference : Node → Option α
  /-- What the last visit of a node produced on an output. -/
  recorded : PortRef → Option α
  /-- What a node offers without having been visited. -/
  literalDefault : Node → Option α

/-- What flows into an input port: the live value of a variable, else what was recorded, else what
the producer offers by itself. -/
def Workspace.resolveInput {α : Type} (w : Workspace) (source : OutputSource α) (node : Node)
    (input : Nat) : Option α :=
  match w.producer? node input with
  | none => none
  | some (producer, output) =>
    if producer.kind = Kind.var.name then source.variableReference producer
    else (source.recorded ⟨producer.id, output⟩).or (source.literalDefault producer)

/-- Visits a node unless it has been entered, then walks on. `enter` tells whether the node is new,
and `act` does the work at a node; it is handed the visit of other nodes. A chain of nested visits
enters a new node at each step, so the number of nodes bounds its length. -/
def walk {m : Type → Type} [Monad m] (w : Workspace) (enter : NodeId → m Bool)
    (act : (visit : Node → m Unit) → Node → m Flow) : (depth : Nat) → Node → m Unit
  | 0, _ => pure ()
  | depth + 1, node => do
    if ← enter node.id then
      let visit := walk w enter act depth
      match ← act visit node with
      | .proceed => (w.controlSuccessors node none).forM visit
      | .follow port => w.branch visit node port
      | .halt => pure ()

end ScriptGraph
