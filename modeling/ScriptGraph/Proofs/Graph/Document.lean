import ScriptGraph.Graph.Document
import ScriptGraph.Proofs.Json.Record

/-! # Saved graphs

A graph that has been read from a document is read again from the document that is written of it.
The limit on nesting is no obstacle: what is written nests everything as deeply as what was read.
-/

namespace ScriptGraph

open Json (Legible Reads reads_text reads_count reads_boolean reads_double reads_freeObject)
open Json.Reader

variable {depth : Nat}

/-! ### What documents hold -/

/-- The properties are nested no deeper than that and stand in order. -/
def Node.Fits (depth : Nat) (n : Node) : Prop :=
  (Json.Value.object n.properties).Fits depth

/-- The number of the port can be read from its text. -/
def Endpoint.Fits (e : Endpoint) : Prop :=
  e.port ≤ significandLimit

def Edge.Fits (e : Edge) : Prop :=
  e.source.Fits ∧ e.target.Fits

/-- Everything in the document can be read from what is written of it. -/
structure GraphDocument.Fits (depth : Nat) (d : GraphDocument) : Prop where
  nodes : ∀ n ∈ d.nodes, n.Fits depth
  edges : ∀ e ∈ d.edges, e.Fits

theorem Node.gives_read : Gives (Node.read (depth + 2)) (Node.Fits (depth + 1)) := by
  refine gives_record "Node" (.object .nil (List.forall_mem_nil _)) ?_
  refine .cons (fun n hn => RecordField.gives_of (gives_any _) fun _ _ => hn) ?_
  refine .cons (fun n hn => RecordField.gives_of (gives_any _) fun _ _ => hn) ?_
  refine .cons (fun n hn => RecordField.gives_of (gives_any _) fun _ _ => hn) ?_
  refine .cons (fun n hn => RecordField.gives_of (gives_any _) fun _ _ => hn) ?_
  exact .cons (fun n hn => RecordField.gives_of (gives_freeObject depth) fun _ fits => fits) .nil

theorem Endpoint.gives_read : Gives (Endpoint.read (depth + 1)) Endpoint.Fits := by
  refine gives_record "Endpoint" (Nat.zero_le _) ?_
  refine .cons (fun e he => RecordField.gives_of (gives_any _) fun _ _ => he) ?_
  refine .cons (fun e he => ?_) ?_
  · exact RecordField.gives_orAlias (RecordField.gives_of gives_count fun _ fits => fits)
  exact .cons (fun e he => RecordField.gives_of (gives_any _) fun _ _ => he) .nil

theorem Edge.gives_read : Gives (Edge.read (depth + 2)) Edge.Fits := by
  refine gives_record "Edge" ⟨Nat.zero_le _, Nat.zero_le _⟩ ?_
  refine .cons (fun e he => RecordField.gives_of Endpoint.gives_read fun _ fits => ⟨fits, he.2⟩) ?_
  exact .cons (fun e he => RecordField.gives_of Endpoint.gives_read fun _ fits => ⟨he.1, fits⟩) .nil

/-- Everything that is read from a document can be read from what is written of it. -/
theorem GraphDocument.gives_read :
    Gives (GraphDocument.read (depth + 4)) (GraphDocument.Fits (depth + 1)) := by
  refine gives_record "GraphDocument" ⟨List.forall_mem_nil _, List.forall_mem_nil _⟩ ?_
  refine .cons (fun d hd => ?_) (.cons (fun d hd => ?_) .nil)
  · exact RecordField.gives_of (gives_list Node.gives_read) fun _ fits => ⟨fits, hd.edges⟩
  · exact RecordField.gives_of (gives_list Edge.gives_read) fun _ fits => ⟨hd.nodes, fits⟩

/-! ### Documents that are read back -/

/-- The doubles that occur in a node. -/
def Node.floats (n : Node) : List Float :=
  n.x :: n.y :: (Json.Value.object n.properties).floats

/-- The doubles that occur in a graph. -/
def Graph.floats (g : Graph) : List Float :=
  g.nodes.toList.flatMap Node.floats

theorem NodeId.reads (id : NodeId) : Reads (NodeId.read depth) (.string id.text) id where
  begins := (Reads.string id.text : Reads (value depth) _ _).begins
  ok style level {blanks more} hb hm := by
    unfold NodeId.read
    rw [(Reads.string id.text).ok style level hb hm]
    rfl

theorem reads_doubleRendering {x : Float} (h : Legible x) :
    Reads double (doubleRendering x) x := by
  obtain ⟨finite, -⟩ := id h
  unfold doubleRendering
  rw [if_pos finite]
  exact reads_double h

theorem Node.reads {n : Node} (h : n.Fits (depth + 1)) (floats : ∀ x ∈ n.floats, Legible x) :
    Reads (Node.read (depth + 2)) n.rendering n := by
  obtain ⟨hx, hy, properties⟩ := List.forall_mem_cons.mp floats |>.imp_right List.forall_mem_cons.mp
  refine Reads.record ?_
  refine .field rfl rfl (RecordField.reads_of (NodeId.reads n.id) _) ?_
  refine .field rfl rfl (RecordField.reads_of (reads_text n.kind) _) ?_
  refine .field rfl rfl (RecordField.reads_of (reads_doubleRendering hx) _) ?_
  refine .field rfl rfl (RecordField.reads_of (reads_doubleRendering hy) _) ?_
  refine .field rfl rfl (RecordField.reads_of (reads_freeObject h properties) _) ?_
  exact .done _ rfl

theorem Endpoint.reads {e : Endpoint} (h : e.Fits) :
    Reads (Endpoint.read (depth + 1)) e.rendering e := by
  refine Reads.record ?_
  refine .field rfl rfl (RecordField.reads_of (NodeId.reads e.node) _) ?_
  refine .field rfl rfl (RecordField.reads_orAlias (RecordField.reads_of (reads_count h) _)) ?_
  refine .field rfl rfl (RecordField.reads_of (reads_boolean e.isInput) _) ?_
  exact .done _ rfl

theorem Edge.reads {e : Edge} (h : e.Fits) : Reads (Edge.read (depth + 2)) e.rendering e := by
  refine Reads.record ?_
  refine .field rfl rfl (RecordField.reads_of (Endpoint.reads h.1) _) ?_
  refine .field rfl rfl (RecordField.reads_of (Endpoint.reads h.2) _) ?_
  exact .done _ rfl

/-- A document is read back from what is written of its graph. -/
theorem GraphDocument.reads {d : GraphDocument} (h : d.Fits (depth + 1))
    (floats : ∀ n ∈ d.nodes, ∀ x ∈ n.floats, Legible x) :
    Reads (GraphDocument.read (depth + 4)) (Graph.ofLists d.nodes d.edges).rendering d := by
  have nodes : Reads (list Node.read (depth + 3)) _ d.nodes :=
    .list fun n hn => Node.reads (h.nodes n hn) (floats n hn)
  have edges : Reads (list Edge.read (depth + 3)) _ d.edges :=
    .list fun e he => Edge.reads (h.edges e he)
  refine Reads.record ?_
  refine .field rfl rfl (RecordField.reads_of nodes _) ?_
  refine .field rfl rfl (RecordField.reads_of edges _) ?_
  exact .done _ rfl

/-- A graph that has been loaded is the same after it has been saved and loaded again, if every
double in it is read from the text that is written of it. -/
theorem Graph.ofJson_toJson {text : String} {g : Graph} (h : Graph.ofJson text = .ok g)
    (floats : ∀ x ∈ g.floats, Legible x) : Graph.ofJson g.toJson = .ok g := by
  unfold Graph.ofJson at h
  cases hd : run (GraphDocument.read maxDepth) text with
  | error e =>
    rw [hd] at h
    cases h
  | ok d =>
    rw [hd] at h
    obtain rfl : Graph.ofLists d.nodes d.edges = g := Except.ok.inj h
    obtain ⟨rest, read, -⟩ := Json.exists_of_run_eq_ok hd
    -- The document, the list of nodes and the node take three of the levels.
    have fits : d.Fits 124 := GraphDocument.gives_read _ _ _ read
    have doubles : ∀ n ∈ d.nodes, ∀ x ∈ n.floats, Legible x :=
      fun n hn x hx => floats x (List.mem_flatMap.mpr ⟨n, by simpa [Graph.ofLists] using hn, hx⟩)
    unfold Graph.ofJson Graph.toJson
    rw [show run (GraphDocument.read maxDepth) _ = .ok d from
      (GraphDocument.reads fits doubles).run (.indented 2)]
    rfl

/-- A document with numbers for ids, with fields left out, and with records that stand as lists. -/
def shorthand : String :=
  "[[[1, \"OnStart\", -0.5], \x7b\"id\": 2.0, \"type\": \"Log\", " ++
    "\"properties\": \x7b\"b\": [1e3, null], \"a\": 7\x7d\x7d], " ++
    "[[[1, 0], \x7b\"index\": 0, \"isInput\": true, \"nodeId\": \"2\"\x7d]]]"

theorem shorthand_ofJson_toJson : ∃ g, Graph.ofJson shorthand = .ok g ∧
    g.nodes.toList.map (·.id.text) = ["1", "2"] ∧ g.floats = [-0.5, 0, 0, 0, 1000] ∧
    (∀ x ∈ g.floats, Legible x) ∧ Graph.ofJson g.toJson = .ok g := by
  have loaded : (Graph.ofJson shorthand).toOption.map (fun g =>
      (g.nodes.toList.map (·.id.text), g.floats)) = some (["1", "2"], [-0.5, 0, 0, 0, 1000]) := by
    decide +kernel
  cases h : Graph.ofJson shorthand with
  | error e =>
    rw [h] at loaded
    cases loaded
  | ok g =>
    rw [h] at loaded
    obtain ⟨ids, floats⟩ := Prod.mk.inj (Option.some.inj loaded)
    have legible : ∀ x ∈ g.floats, Legible x := by
      rw [floats]
      decide +kernel
    exact ⟨g, rfl, ids, floats, legible, Graph.ofJson_toJson h legible⟩

end ScriptGraph
