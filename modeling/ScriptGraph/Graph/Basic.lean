import Std.Data.TreeMap
import ScriptGraph.Json.Value

/-! # Graphs

A graph is a list of nodes and a list of edges from output ports to input ports. It is built once,
indexed, and then only read. Nothing fails on a malformed graph: looking up what is missing gives
nothing. Of several nodes with one id the first counts, and of several edges into one input port
the first counts.
-/

namespace ScriptGraph

/-- The name of a node in its graph. -/
structure NodeId where
  text : String
  deriving DecidableEq

namespace NodeId

instance : Ord NodeId := ⟨compareOn text⟩

instance : Std.TransOrd NodeId := inferInstanceAs (Std.TransCmp (compareOn text))

instance : Std.LawfulEqOrd NodeId where
  eq_of_compare {a b} h := by
    have : a.text = b.text := Std.LawfulEqOrd.eq_of_compare (α := String) h
    cases a; cases b; simp_all

/-- The id that a number gives. -/
def ofNat (n : Nat) : NodeId :=
  ⟨toString n⟩

end NodeId

/-- A port of a node, by its number among the inputs or among the outputs. -/
structure PortRef where
  node : NodeId
  port : Nat
  deriving DecidableEq

namespace PortRef

instance : Ord PortRef := ⟨compareLex (compareOn node) (compareOn port)⟩

instance : Std.TransOrd PortRef :=
  inferInstanceAs (Std.TransCmp (compareLex (compareOn node) (compareOn port)))

instance : Std.LawfulEqOrd PortRef where
  eq_of_compare {a b} h := by
    obtain ⟨hn, hp⟩ := compareLex_eq_eq.mp h
    have h₁ : a.node = b.node := Std.LawfulEqOrd.eq_of_compare hn
    have h₂ : a.port = b.port := Std.LawfulEqOrd.eq_of_compare hp
    cases a; cases b; simp_all

end PortRef

/-- One placed node. Its kind is a name that a registry may know. -/
structure Node where
  id : NodeId
  kind : String
  x : Float := 0
  y : Float := 0
  properties : Json.Members := []

/-- A node with one more property. -/
def Node.withProperty (n : Node) (name : String) (value : Json.Value) : Node :=
  { n with properties := n.properties.insert name value }

/-- One end of an edge, with the direction that the document gives it. -/
structure Endpoint where
  node : NodeId
  port : Nat
  isInput : Bool
  deriving DecidableEq

def Endpoint.ref (e : Endpoint) : PortRef :=
  ⟨e.node, e.port⟩

/-- A connection from an output port to an input port. -/
structure Edge where
  source : Endpoint
  target : Endpoint
  deriving DecidableEq

namespace Edge

/-- The edge from an output of one node to an input of another. -/
def between (source : NodeId) (output : Nat) (target : NodeId) (input : Nat) : Edge :=
  ⟨⟨source, output, false⟩, ⟨target, input, true⟩⟩

def isSelfLoop (e : Edge) : Bool :=
  e.source.node = e.target.node

end Edge

namespace Graph

/-- What lookups go through: positions in the lists, and the edges that leave each node. -/
structure Index where
  nodes : Std.TreeMap NodeId Nat
  outgoing : Std.TreeMap NodeId (Array Edge)
  incoming : Std.TreeMap PortRef Nat

namespace Index

def empty : Index := ⟨∅, ∅, ∅⟩

/-- Enters the node at a position, unless its id has been entered. -/
def addNode (index : Index) (node : Node) (position : Nat) : Index :=
  { index with nodes := index.nodes.insertIfNew node.id position }

/-- Enters the edge at a position: behind those that leave the same node, and as the producer of its
input port unless that port has one. -/
def addEdge (index : Index) (edge : Edge) (position : Nat) : Index :=
  { index with
    outgoing := index.outgoing.alter edge.source.node fun edges? =>
      some ((edges?.getD #[]).push edge)
    incoming := index.incoming.insertIfNew edge.target.ref position }

def ofNodes (nodes : Array Node) : Index :=
  nodes.toList.zipIdx.foldl (fun index (node, position) => index.addNode node position) empty

def build (nodes : Array Node) (edges : Array Edge) : Index :=
  edges.toList.zipIdx.foldl (fun index (edge, position) => index.addEdge edge position)
    (ofNodes nodes)

end Index

end Graph

/-- A snapshot of nodes and edges with their index. -/
structure Graph where
  nodes : Array Node
  edges : Array Edge
  index : Graph.Index := .build nodes edges
  index_eq : index = .build nodes edges := by rfl

namespace Graph

def ofLists (nodes : List Node) (edges : List Edge) : Graph :=
  { nodes := nodes.toArray, edges := edges.toArray }

/-- The first node with an id. -/
def findNode (g : Graph) (id : NodeId) : Option Node := do
  g.nodes[← g.index.nodes[id]?]?

/-- The edges that leave a node, in document order. -/
def edgesFrom (g : Graph) (id : NodeId) : Array Edge :=
  g.index.outgoing[id]?.getD #[]

/-- The first edge into an input port. -/
def edgeInto (g : Graph) (id : NodeId) (input : Nat) : Option Edge := do
  g.edges[← g.index.incoming[PortRef.mk id input]?]?

/-- The nodes of a kind, in document order. -/
def nodesOfKind (g : Graph) (kind : String) : List Node :=
  g.nodes.toList.filter (·.kind = kind)

end Graph

end ScriptGraph
