import ScriptGraph.Graph.Walk

/-! # Structural issues

Every structural problem of a graph, in document order. A pass copes with all of them, so none
forbids anything.
-/

namespace ScriptGraph

/-- What is wrong with a connection. -/
inductive ConnectionFault where
  | direction
  | noOutput (source : NodeId) (port : Nat)
  | noInput (port : Nat)
  | kinds (output input : PortKind)
  deriving DecidableEq

def ConnectionFault.message : ConnectionFault → String
  | .direction => "edges must run from an output port to an input port"
  | .noOutput source port => s!"source node '{source.text}' has no output port {port}"
  | .noInput port => s!"node has no input port {port}"
  | .kinds output input => s!"cannot connect a {output.name} output to a {input.name} input"

/-- A structural problem of a graph. -/
inductive Issue where
  | duplicateNode (node : NodeId)
  | unknownKind (node : NodeId) (kind : String)
  | selfLoop (node : NodeId)
  | connection (target : PortRef) (fault : ConnectionFault)
  | missingNode (missing requiredBy : NodeId)
  | duplicateProducer (target : PortRef) (count : Nat)
  deriving DecidableEq

def Issue.message : Issue → String
  | .duplicateNode node =>
    s!"Node id '{node.text}' is declared more than once; only the first declaration is used"
  | .unknownKind node kind => s!"Node '{node.text}' has an unregistered node type: '{kind}'"
  | .selfLoop node => s!"Node '{node.text}' is connected to itself"
  | .connection target fault =>
    s!"A connection to node '{target.node.text}' on port {target.port} is invalid: {fault.message}"
  | .missingNode missing requiredBy =>
    s!"Node '{missing.text}' not found, which is required by a connection from node " ++
      s!"'{requiredBy.text}'"
  | .duplicateProducer target count =>
    s!"Input port {target.port} of node '{target.node.text}' has {count} producers; " ++
      "only the first is used"

namespace Workspace

/-- The problems of the nodes after those with the ids in `seen`. -/
def nodeIssues (w : Workspace) : (seen : List NodeId) → List Node → List Issue
  | _, [] => []
  | seen, node :: rest =>
    (if seen.contains node.id then [.duplicateNode node.id] else []) ++
    (if w.registry.contains node.kind then [] else [.unknownKind node.id node.kind]) ++
    w.nodeIssues (node.id :: seen) rest

/-- What is wrong with the ports of an edge between existing nodes of known kinds. -/
def portFault? (w : Workspace) (source target : Node) (edge : Edge) : Option ConnectionFault := do
  let outputs ← w.registry.portsOf? source
  let inputs ← w.registry.portsOf? target
  match outputs.outputKind? edge.source.port, inputs.inputKind? edge.target.port with
  | none, _ => some (.noOutput source.id edge.source.port)
  | some _, none => some (.noInput edge.target.port)
  | some output, some input => if output = input then none else some (.kinds output input)

def edgeIssues (w : Workspace) (edge : Edge) : List Issue :=
  let from? := w.graph.findNode edge.source.node
  let to? := w.graph.findNode edge.target.node
  let connection (fault : ConnectionFault) : Issue := .connection edge.target.ref fault
  (if edge.isSelfLoop then [.selfLoop edge.target.node] else []) ++
  (if edge.source.isInput || !edge.target.isInput then [connection .direction] else []) ++
  (if from?.isNone then [.missingNode edge.source.node edge.target.node] else []) ++
  (if to?.isNone then [.missingNode edge.target.node edge.source.node] else []) ++
  match from?, to? with
  | some source, some target => ((w.portFault? source target edge).map connection).toList
  | _, _ => []

/-- How many edges end at each input port. -/
def producerCounts (edges : List Edge) : Std.TreeMap PortRef Nat :=
  edges.foldl (fun counts edge =>
    counts.alter edge.target.ref fun count? => some (count?.getD 0 + 1)) ∅

/-- The input ports with several producers, by node id and port. -/
def producerIssues (edges : List Edge) : List Issue :=
  (producerCounts edges).toList.filterMap fun (target, count) =>
    if 1 < count then some (.duplicateProducer target count) else none

/-- Every structural problem: those of nodes, of edges, and of input ports. -/
def issues (w : Workspace) : List Issue :=
  w.nodeIssues [] w.graph.nodes.toList ++ w.graph.edges.toList.flatMap w.edgeIssues ++
    producerIssues w.graph.edges.toList

end Workspace

end ScriptGraph
