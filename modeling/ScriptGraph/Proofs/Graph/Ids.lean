import ScriptGraph.Proofs.Graph.Document

/-! # Integers as ids

An id may be spelled as an integer. It is loaded as the digits of the integer if that has 63 bits.
The double nearest to a larger one need not have the same digits.
-/

namespace ScriptGraph

open Json (IsWord Number Reads ReadsFields Rendering Style reads_text)
open Json.Reader

/-- Something as it is spelled in a document, together with what is read. -/
structure Spelled {α : Type} (read : List Char → Except Json.Failure (α × List Char)) where
  rendering : Rendering
  value : α
  reads : Reads read rendering value

/-! ### Ids -/

theorem NodeId.reads_number {depth : Nat} {r : Rendering} {n : Number}
    (h : Reads (value depth) r (.number n)) : Reads (NodeId.read depth) r (.ofNumber n) where
  begins := h.begins
  ok style level {blanks more} hb hm := by
    unfold NodeId.read
    rw [h.ok style level hb hm]
    rfl

/-- Integers of at most 64 bits have different digits. -/
theorem toString_inj_of_isWord {m n : Int} (hm : IsWord m) (hn : IsWord n)
    (h : toString m = toString n) : m = n := by
  have first := (Reads.integer hm : Reads (value 0) _ _).run .compact
  have second := (Reads.integer hn : Reads (value 0) _ _).run .compact
  rw [h, second] at first
  cases first
  rfl

/-- An id as it is spelled in a document: an integer of at most 64 bits, or anything else. -/
inductive IdSpelling where
  | integer (n : Int) (word : IsWord n)
  | other (rendering : Rendering) (id : NodeId)
      (reads : ∀ depth, Reads (NodeId.read depth) rendering id)

namespace IdSpelling

def rendering : IdSpelling → Rendering
  | .integer n _ => .raw (toString n)
  | .other rendering _ _ => rendering

/-- The id that is loaded. -/
def loaded : IdSpelling → NodeId
  | .integer n word => .ofNumber (.int n word)
  | .other _ id _ => id

/-- The id that is meant. An integer means its digits. -/
def meant : IdSpelling → NodeId
  | .integer n _ => ⟨toString n⟩
  | .other _ id _ => id

/-- The same id as a text, if it was spelled as an integer. -/
def quoted : IdSpelling → IdSpelling
  | .integer n _ => .other (.string (toString n)) ⟨toString n⟩ fun _ => NodeId.reads _
  | s => s

/-- An integer of at most 63 bits is kept, and a larger one if its digits are those that are
written of the nearest double. -/
def Kept : IdSpelling → Prop
  | .integer n _ => n < Json.signedLimit ∨ Decimal.plain (Number.floatOfInt n) = toString n
  | .other .. => True

theorem reads (s : IdSpelling) (depth : Nat) : Reads (NodeId.read depth) s.rendering s.loaded := by
  cases s with
  | integer n word => exact NodeId.reads_number (.integer word)
  | other _ _ reads => exact reads depth

theorem loaded_eq_meant_iff (s : IdSpelling) : s.loaded = s.meant ↔ s.Kept := by
  cases s with
  | integer n word =>
    unfold loaded meant Kept NodeId.ofNumber
    dsimp only
    split
    next small => exact ⟨fun _ => .inl small, fun _ => rfl⟩
    next large =>
      rw [NodeId.mk.injEq]
      exact ⟨.inr, fun h => h.resolve_left large⟩
  | other => exact ⟨fun _ => trivial, fun _ => rfl⟩

@[simp] theorem loaded_quoted (s : IdSpelling) : s.quoted.loaded = s.meant := by
  cases s <;> rfl

end IdSpelling

/-! ### Records in any order -/

section

variable {σ ε β : Type} {store : σ → ε → σ} {get : σ → β} {name : ε → String}

theorem foldl_store_eq_self {es : List ε} (h : ∀ e ∈ es, ∀ r, get (store r e) = get r) (r : σ) :
    get (es.foldl store r) = get r := by
  induction es generalizing r with
  | nil => rfl
  | cons e es ih =>
    obtain ⟨he, others⟩ := List.forall_mem_cons.mp h
    rw [List.foldl_cons, ih others, he]

/-- What one of the fields sets and no other one does. -/
theorem foldl_store_eq {es : List ε} {e : ε} {b : β} (distinct : (es.map name).Nodup) (he : e ∈ es)
    (sets : ∀ r, get (store r e) = b)
    (others : ∀ e', name e' ≠ name e → ∀ r, get (store r e') = get r) (r : σ) :
    get (es.foldl store r) = b := by
  induction es generalizing r with
  | nil => cases he
  | cons e' es ih =>
    obtain ⟨new, distinct⟩ := List.nodup_cons.mp distinct
    rw [List.foldl_cons]
    rcases List.mem_cons.mp he with rfl | he
    · have rest : ∀ e' ∈ es, ∀ r, get (store r e') = get r := by
        intro e' he'
        apply others e'
        intro same
        exact new (same ▸ List.mem_map_of_mem he')
      exact (foldl_store_eq_self rest _).trans (sets r)
    · exact ih distinct he _

end

/-! ### Nodes -/

/-- A field of a node as it is spelled. Three lists and objects stand around it. -/
inductive NodeField where
  | id (s : IdSpelling)
  | kind (s : Spelled text)
  | x (s : Spelled double)
  | y (s : Spelled double)
  | properties (s : Spelled (freeObject 124))

namespace NodeField

def name : NodeField → String
  | .id _ => "id"
  | .kind _ => "type"
  | .x _ => "x"
  | .y _ => "y"
  | .properties _ => "properties"

def rendering : NodeField → Rendering
  | .id s => s.rendering
  | .kind s | .x s | .y s | .properties s => s.rendering

def store (n : Node) : NodeField → Node
  | .id s => { n with id := s.loaded }
  | .kind s => { n with kind := s.value }
  | .x s => { n with x := s.value }
  | .y s => { n with y := s.value }
  | .properties s => { n with properties := s.value }

end NodeField

/-- A node as it is spelled, with its fields in any order. All but two of them may be left out. -/
structure SpelledNode where
  id : IdSpelling
  before : List NodeField
  after : List NodeField
  distinct : ((before ++ .id id :: after).map (·.name)).Nodup
  kind_mem : "type" ∈ (before ++ .id id :: after).map (·.name)

namespace SpelledNode

variable (n : SpelledNode)

def fields : List NodeField :=
  n.before ++ .id n.id :: n.after

def rendering : Rendering :=
  .object (n.fields.map fun f => (f.name, f.rendering))

/-- The node that is loaded. -/
def node : Node :=
  n.fields.foldl NodeField.store { id := ⟨""⟩, kind := "" }

/-- The node with its id spelled in another way. -/
def respell (f : IdSpelling → IdSpelling) : SpelledNode where
  id := f n.id
  before := n.before
  after := n.after
  distinct := by simpa [NodeField.name] using n.distinct
  kind_mem := by simpa [NodeField.name] using n.kind_mem

theorem id_mem : .id n.id ∈ n.fields :=
  List.mem_append_right _ List.mem_cons_self

theorem reads : Reads (Node.read 125) n.rendering n.node := by
  apply Reads.record
  refine ReadsFields.of_entries (fun f => ?_) n.distinct ?_ _
  · cases f with
    | id s => exact ⟨_, rfl, rfl, fun _ => RecordField.reads_of (s.reads _) _⟩
    | kind s | x s | y s | properties s =>
      exact ⟨_, rfl, rfl, fun _ => RecordField.reads_of s.reads _⟩
  · have given : "id" ∈ n.fields.map (·.name) := List.mem_map_of_mem n.id_mem
    have kind : "type" ∈ n.fields.map (·.name) := n.kind_mem
    generalize n.fields.map (·.name) = names at given kind ⊢
    simp [RecordField.of, given, kind]

theorem id_node : n.node.id = n.id.loaded := by
  refine foldl_store_eq n.distinct n.id_mem (fun _ => rfl) (fun f other _ => ?_) _
  cases f with
  | id => exact absurd rfl other
  | kind | x | y | properties => rfl

theorem node_respell {f : IdSpelling → IdSpelling} (h : (f n.id).loaded = n.id.loaded) :
    (n.respell f).node = n.node := by
  unfold node fields respell
  simp only [List.foldl_append, List.foldl_cons, NodeField.store, h]

end SpelledNode

/-! ### Edges -/

/-- A field of an end of an edge as it is spelled. The number of the port goes by two names. -/
inductive EndpointField where
  | node (s : IdSpelling)
  | port (old : Bool) (s : Spelled count)
  | isInput (s : Spelled boolean)

namespace EndpointField

def name : EndpointField → String
  | .node _ => "nodeId"
  | .port .. => "portIndex"
  | .isInput _ => "isInput"

def key : EndpointField → String
  | .port true _ => "index"
  | f => f.name

def rendering : EndpointField → Rendering
  | .node s => s.rendering
  | .port _ s | .isInput s => s.rendering

def store (e : Endpoint) : EndpointField → Endpoint
  | .node s => { e with node := s.loaded }
  | .port _ s => { e with port := s.value }
  | .isInput s => { e with isInput := s.value }

end EndpointField

/-- An end of an edge as it is spelled, with its fields in any order. -/
structure SpelledEndpoint where
  node : IdSpelling
  before : List EndpointField
  after : List EndpointField
  distinct : ((before ++ .node node :: after).map (·.name)).Nodup
  port_mem : "portIndex" ∈ (before ++ .node node :: after).map (·.name)

namespace SpelledEndpoint

variable (e : SpelledEndpoint)

def fields : List EndpointField :=
  e.before ++ .node e.node :: e.after

def rendering : Rendering :=
  .object (e.fields.map fun f => (f.key, f.rendering))

/-- The end that is loaded. -/
def endpoint : Endpoint :=
  e.fields.foldl EndpointField.store ⟨⟨""⟩, 0, false⟩

/-- The end with its id spelled in another way. -/
def respell (f : IdSpelling → IdSpelling) : SpelledEndpoint where
  node := f e.node
  before := e.before
  after := e.after
  distinct := by simpa [EndpointField.name] using e.distinct
  port_mem := by simpa [EndpointField.name] using e.port_mem

theorem node_mem : .node e.node ∈ e.fields :=
  List.mem_append_right _ List.mem_cons_self

theorem reads : Reads (Endpoint.read 124) e.rendering e.endpoint := by
  apply Reads.record
  refine ReadsFields.of_entries (fun f => ?_) e.distinct ?_ _
  · cases f with
    | node s => exact ⟨_, rfl, rfl, fun _ => RecordField.reads_of (s.reads _) _⟩
    | port old s =>
      cases old <;>
        exact ⟨_, rfl, rfl, fun _ => RecordField.reads_orAlias (RecordField.reads_of s.reads _)⟩
    | isInput s => exact ⟨_, rfl, rfl, fun _ => RecordField.reads_of s.reads _⟩
  · have given : "nodeId" ∈ e.fields.map (·.name) := List.mem_map_of_mem e.node_mem
    have port : "portIndex" ∈ e.fields.map (·.name) := e.port_mem
    generalize e.fields.map (·.name) = names at given port ⊢
    simp [RecordField.of, RecordField.orAlias, given, port]

theorem node_endpoint : e.endpoint.node = e.node.loaded := by
  refine foldl_store_eq e.distinct e.node_mem (fun _ => rfl) (fun f other _ => ?_) _
  cases f with
  | node => exact absurd rfl other
  | port | isInput => rfl

theorem endpoint_respell {f : IdSpelling → IdSpelling} (h : (f e.node).loaded = e.node.loaded) :
    (e.respell f).endpoint = e.endpoint := by
  unfold endpoint fields respell
  simp only [List.foldl_append, List.foldl_cons, EndpointField.store, h]

end SpelledEndpoint

/-- An edge as it is spelled, with either end first. -/
structure SpelledEdge where
  source : SpelledEndpoint
  target : SpelledEndpoint
  targetFirst : Bool

namespace SpelledEdge

variable (e : SpelledEdge)

def rendering : Rendering :=
  .object <|
    if e.targetFirst then [("end", e.target.rendering), ("start", e.source.rendering)]
    else [("start", e.source.rendering), ("end", e.target.rendering)]

def edge : Edge :=
  ⟨e.source.endpoint, e.target.endpoint⟩

def ids : List IdSpelling :=
  [e.source.node, e.target.node]

def respell (f : IdSpelling → IdSpelling) : SpelledEdge :=
  { e with source := e.source.respell f, target := e.target.respell f }

theorem reads : Reads (Edge.read 125) e.rendering e.edge := by
  apply Reads.record
  cases e.targetFirst with
  | true =>
    refine .field rfl rfl (RecordField.reads_of e.target.reads _) ?_
    refine .field rfl rfl (RecordField.reads_of e.source.reads _) ?_
    exact .done _ rfl
  | false =>
    refine .field rfl rfl (RecordField.reads_of e.source.reads _) ?_
    refine .field rfl rfl (RecordField.reads_of e.target.reads _) ?_
    exact .done _ rfl

theorem edge_respell {f : IdSpelling → IdSpelling} (h : ∀ s ∈ e.ids, (f s).loaded = s.loaded) :
    (e.respell f).edge = e.edge := by
  unfold ids at h
  simp only [List.forall_mem_cons] at h
  obtain ⟨source, target, -⟩ := h
  exact congrArg₂ Edge.mk (e.source.endpoint_respell source) (e.target.endpoint_respell target)

end SpelledEdge

/-! ### Documents -/

/-- The ids of the nodes of a graph and of the ends of its edges, in order. -/
def Graph.loadedIds (g : Graph) : List NodeId :=
  g.nodes.toList.map (·.id) ++ g.edges.toList.flatMap fun e => [e.source.node, e.target.node]

/-- A document as it is spelled, with either list first. -/
structure SpelledDocument where
  nodes : List SpelledNode
  edges : List SpelledEdge
  edgesFirst : Bool

namespace SpelledDocument

variable (d : SpelledDocument)

def rendering : Rendering :=
  let nodes := Rendering.array (d.nodes.map (·.rendering))
  let edges := Rendering.array (d.edges.map (·.rendering))
  .object (if d.edgesFirst then [("edges", edges), ("nodes", nodes)]
    else [("nodes", nodes), ("edges", edges)])

/-- The ids that occur in the document. -/
def ids : List IdSpelling :=
  d.nodes.map (·.id) ++ d.edges.flatMap (·.ids)

/-- The graph that is loaded. -/
def graph : Graph :=
  .ofLists (d.nodes.map (·.node)) (d.edges.map (·.edge))

def respell (f : IdSpelling → IdSpelling) : SpelledDocument :=
  { d with nodes := d.nodes.map (·.respell f), edges := d.edges.map (·.respell f) }

theorem reads : Reads (GraphDocument.read 127) d.rendering
    ⟨d.nodes.map (·.node), d.edges.map (·.edge)⟩ := by
  have nodes : Reads (list Node.read 126) _ (d.nodes.map (·.node)) :=
    .list_map fun n _ => n.reads
  have edges : Reads (list Edge.read 126) _ (d.edges.map (·.edge)) :=
    .list_map fun e _ => e.reads
  apply Reads.record
  cases d.edgesFirst with
  | true =>
    refine .field rfl rfl (RecordField.reads_of edges _) ?_
    refine .field rfl rfl (RecordField.reads_of nodes _) ?_
    exact .done _ rfl
  | false =>
    refine .field rfl rfl (RecordField.reads_of nodes _) ?_
    refine .field rfl rfl (RecordField.reads_of edges _) ?_
    exact .done _ rfl

theorem ofJson_eq (style : Style) : Graph.ofJson (d.rendering.toString style) = .ok d.graph := by
  unfold Graph.ofJson
  rw [show run (GraphDocument.read maxDepth) _ = .ok _ from d.reads.run style]
  rfl

theorem ids_graph : d.graph.loadedIds = d.ids.map (·.loaded) := by
  unfold Graph.loadedIds graph ids
  simp [Graph.ofLists, SpelledNode.id_node, SpelledEdge.edge, SpelledEdge.ids,
    SpelledEndpoint.node_endpoint, List.flatMap_map, List.map_flatMap]

theorem graph_respell {f : IdSpelling → IdSpelling} (h : ∀ s ∈ d.ids, (f s).loaded = s.loaded) :
    (d.respell f).graph = d.graph := by
  obtain ⟨nodes, edges⟩ := List.forall_mem_append.mp h
  unfold graph respell
  simp only [List.map_map]
  congr 1
  · exact List.map_congr_left fun n hn => n.node_respell (nodes _ (List.mem_map_of_mem hn))
  · exact List.map_congr_left fun e he => e.edge_respell fun s hs =>
      edges s (List.mem_flatMap.mpr ⟨e, he, hs⟩)

/-- A graph has been loaded from the document, and every integer that is kept as an id of it has
become the id of its digits. -/
structure Loads (style : Style) (g : Graph) : Prop where
  loads : Graph.ofJson (d.rendering.toString style) = .ok g
  ids : g.loadedIds = d.ids.map (·.loaded)
  meant {s : IdSpelling} (h : s ∈ d.ids) : s.loaded = s.meant ↔ s.Kept
  /-- The integers can as well be spelled as texts. -/
  quoted (h : ∀ s ∈ d.ids, s.Kept) :
    Graph.ofJson ((d.respell IdSpelling.quoted).rendering.toString style) = .ok g
  natural {n : Nat} {word : IsWord n} (h : .integer n word ∈ d.ids)
    (kept : (IdSpelling.integer n word).Kept) :
    (IdSpelling.integer n word).loaded = .ofNat n
  /-- Different integers stay different ids. -/
  apart {m n : Int} {wm : IsWord m} {wn : IsWord n} (hm : .integer m wm ∈ d.ids)
    (hn : .integer n wn ∈ d.ids) (km : (IdSpelling.integer m wm).Kept)
    (kn : (IdSpelling.integer n wn).Kept) (h : m ≠ n) :
    (IdSpelling.integer m wm).loaded ≠ (IdSpelling.integer n wn).loaded

end SpelledDocument

/-- A document gives a graph, whatever integers its ids are. Each of them becomes the id of its
digits if and only if it is kept, which all integers of 63 bits are. -/
theorem ofJson_loads (d : SpelledDocument) (style : Style) : ∃ g, d.Loads style g := by
  refine ⟨d.graph, ?_⟩
  constructor
  case loads => exact d.ofJson_eq style
  case ids => exact d.ids_graph
  case meant =>
    intro s _
    exact s.loaded_eq_meant_iff
  case quoted =>
    intro kept
    rw [SpelledDocument.ofJson_eq]
    refine congrArg Except.ok (d.graph_respell fun s hs => ?_)
    rw [IdSpelling.loaded_quoted, s.loaded_eq_meant_iff.mpr (kept s hs)]
  case natural =>
    intro n word _ kept
    exact (IdSpelling.loaded_eq_meant_iff _).mpr kept
  case apart =>
    intro m n wm wn _ _ km kn apart same
    rw [(IdSpelling.loaded_eq_meant_iff _).mpr km, (IdSpelling.loaded_eq_meant_iff _).mpr kn]
      at same
    exact apart (toString_inj_of_isWord wm wn (congrArg NodeId.text same))

/-- Two ids beyond 63 bits for which the same double is taken. -/
def twins : String :=
  "\x7b\"nodes\": [\x7b\"id\": 9223372036854775809, \"type\": \"OnStart\"\x7d, " ++
    "\x7b\"id\": 9223372036854775810, \"type\": \"OnStart\"\x7d], \"edges\": []\x7d"

theorem twins_merge : ∃ g, Graph.ofJson twins = .ok g ∧
    g.nodes.toList.map (·.id.text) = ["9223372036854776000", "9223372036854776000"] := by
  have loaded : (Graph.ofJson twins).toOption.map (fun g => g.nodes.toList.map (·.id.text)) =
      some ["9223372036854776000", "9223372036854776000"] := by
    decide +kernel
  cases h : Graph.ofJson twins with
  | error e =>
    rw [h] at loaded
    cases loaded
  | ok g =>
    rw [h] at loaded
    exact ⟨g, rfl, Option.some.inj loaded⟩

end ScriptGraph
