import ScriptGraph.Graph.Basic
import ScriptGraph.Json.Record
import ScriptGraph.Json.Printer

/-! # Graph documents

The JSON form of a graph, as an editor stores it. An id may be a text or a number and becomes a
text; what is written always has every field.
-/

namespace ScriptGraph

open Json (Rendering)

section Reading

open Json.Reader

/-- The text of a number that serves as an id. An integer beyond 63 bits counts as a double. -/
def NodeId.ofNumber (n : Json.Number) : NodeId :=
  match n with
  | .int n word =>
    if n < Json.signedLimit then ⟨toString n⟩
    else ⟨Decimal.plain (Json.Number.toFloat (.int n word))⟩
  | .float x _ => ⟨Decimal.plain x⟩

def NodeId.read (depth : Nat) (cs : List Char) : Except Json.Failure (NodeId × List Char) := do
  match ← value depth cs with
  | (.string s, rest) => return (⟨s⟩, rest)
  | (.number n, rest) => return (.ofNumber n, rest)
  | (_, rest) => failUnplaced (.noVariant "RawId") rest

def Node.read : (depth : Nat) → List Char → Except Json.Failure (Node × List Char) :=
  record "Node" [
    .of "id" true NodeId.read fun n id => { n with id },
    .of "type" true (fun _ => text) fun n kind => { n with kind },
    .of "x" false (fun _ => double) fun n x => { n with x },
    .of "y" false (fun _ => double) fun n y => { n with y },
    .of "properties" false freeObject fun n properties => { n with properties }]
    { id := ⟨""⟩, kind := "" }

/-- The node that a JSON text holds. -/
def Node.ofJson (text : String) : Except Json.ReadError Node :=
  run (Node.read maxDepth) text

def Endpoint.read : (depth : Nat) → List Char → Except Json.Failure (Endpoint × List Char) :=
  record "Endpoint" [
    .of "nodeId" true NodeId.read fun e node => { e with node },
    (RecordField.of "portIndex" true (fun _ => count) fun e port => { e with port }).orAlias
      "index",
    .of "isInput" false (fun _ => boolean) fun e isInput => { e with isInput }]
    ⟨⟨""⟩, 0, false⟩

def Edge.read : (depth : Nat) → List Char → Except Json.Failure (Edge × List Char) :=
  record "Edge" [
    .of "start" true Endpoint.read fun e source => { e with source },
    .of "end" true Endpoint.read fun e target => { e with target }]
    ⟨⟨⟨""⟩, 0, false⟩, ⟨⟨""⟩, 0, false⟩⟩

/-- The lists of a document. -/
structure GraphDocument where
  nodes : List Node := []
  edges : List Edge := []

def GraphDocument.read :
    (depth : Nat) → List Char → Except Json.Failure (GraphDocument × List Char) :=
  record "GraphDocument" [
    .of "nodes" false (list Node.read) fun d nodes => { d with nodes },
    .of "edges" false (list Edge.read) fun d edges => { d with edges }]
    {}

/-- The graph that a JSON text holds. -/
def Graph.ofJson (text : String) : Except Json.ReadError Graph :=
  (fun d : GraphDocument => Graph.ofLists d.nodes d.edges) <$>
    run (GraphDocument.read maxDepth) text

end Reading

/-! ### Writing -/

/-- A double in a document; one that is not finite has no notation. -/
def doubleRendering (x : Float) : Rendering :=
  .raw (if x.isFinite then Decimal.scientific x else "null")

def Node.rendering (n : Node) : Rendering :=
  .object [("id", .string n.id.text), ("type", .string n.kind), ("x", doubleRendering n.x),
    ("y", doubleRendering n.y), ("properties", (Json.Value.object n.properties).rendering)]

def Endpoint.rendering (e : Endpoint) : Rendering :=
  .object [("nodeId", .string e.node.text), ("portIndex", .raw (toString e.port)),
    ("isInput", .bool e.isInput)]

def Edge.rendering (e : Edge) : Rendering :=
  .object [("start", e.source.rendering), ("end", e.target.rendering)]

def Graph.rendering (g : Graph) : Rendering :=
  .object [("nodes", .array (g.nodes.toList.map (·.rendering))),
    ("edges", .array (g.edges.toList.map (·.rendering)))]

/-- The document of a graph, indented by two blanks a level. -/
def Graph.toJson (g : Graph) : String :=
  g.rendering.toString (.indented 2)

/-- Why a file gives no graph or no options. -/
inductive LoadError where
  | parse (error : Json.ReadError)
  | unreadable (path reason : String)

def LoadError.message : LoadError → String
  | .parse error => s!"Failed to parse graph JSON: {error.message}"
  | .unreadable path reason => s!"Failed to read '{path}': {reason}"

end ScriptGraph
