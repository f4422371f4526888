import Mathlib.Data.List.Nodup
import ScriptGraph.Graph.Basic

/-! # Looking up nodes and edges

The index of a graph agrees with its lists of nodes and edges: a node is found by an id exactly when
it is the first that carries the id, the edges that leave a node keep their order, and the edge into
an input port is the first one.
-/

namespace ScriptGraph.Graph

theorem Index.nodes_build (nodes : Array Node) (edges : Array Edge) :
    (Index.build nodes edges).nodes = (Index.ofNodes nodes).nodes := by
  unfold Index.build
  generalize edges.toList.zipIdx = numbered
  generalize Index.ofNodes nodes = index
  induction numbered generalizing index with
  | nil => rfl
  | cons e numbered ih => exact ih (index.addEdge e.1 e.2)

theorem Index.getElem?_foldl_addNode (nodes : List Node) (start : Nat) (index : Index)
    (id : NodeId) :
    ((nodes.zipIdx start).foldl (fun index (node, position) => index.addNode node position)
      index).nodes[id]? =
      index.nodes[id]?.or ((nodes.findIdx? (·.id = id)).map (start + ·)) := by
  induction nodes generalizing start index with
  | nil => simp
  | cons node nodes ih =>
    rw [List.zipIdx_cons, List.foldl_cons, ih, List.findIdx?_cons]
    simp only [addNode, Std.TreeMap.getElem?_insertIfNew, Std.LawfulEqOrd.compare_eq_iff_eq]
    by_cases h : node.id = id
    · subst h
      by_cases hm : node.id ∈ index.nodes <;> simp [hm]
    · simp only [h, false_and, if_false, decide_false, Bool.false_eq_true, Option.map_map]
      congr 2
      funext position
      simp only [Function.comp_apply]
      omega

/-- The index has the position of the first node with an id. -/
theorem getElem?_index_nodes (g : Graph) (id : NodeId) :
    g.index.nodes[id]? = g.nodes.toList.findIdx? (·.id = id) := by
  rw [g.index_eq, Index.nodes_build, Index.ofNodes, Index.getElem?_foldl_addNode]
  simp [Index.empty]

theorem findNode_eq_find? (g : Graph) (id : NodeId) :
    g.findNode id = g.nodes.toList.find? (·.id = id) := by
  rw [List.find?_eq_bind_findIdx?_getElem?, ← g.getElem?_index_nodes]
  simp only [findNode, Array.getElem?_toList]
  rfl

theorem mem_of_findNode {g : Graph} {id : NodeId} {node : Node} (h : g.findNode id = some node) :
    node ∈ g.nodes.toList ∧ node.id = id := by
  rw [findNode_eq_find?] at h
  exact ⟨List.mem_of_find?_eq_some h, by simpa using List.find?_some h⟩

/-- Where ids are unique, every node is found by its own. -/
theorem findNode_of_mem {g : Graph} (hu : (g.nodes.toList.map (·.id)).Nodup) {node : Node}
    (h : node ∈ g.nodes.toList) : g.findNode node.id = some node := by
  rw [findNode_eq_find?]
  cases hf : g.nodes.toList.find? (·.id = node.id) with
  | none => simp at hf; exact absurd rfl (hf node (by simpa using h))
  | some other =>
    have he : other.id = node.id := by simpa using List.find?_some hf
    rw [List.inj_on_of_nodup_map hu (List.mem_of_find?_eq_some hf) h he]

/-! ### Edges -/

theorem Index.getElem?_outgoing_foldl_addEdge (edges : List Edge) (start : Nat) (index : Index)
    (id : NodeId) :
    (((edges.zipIdx start).foldl (fun index (edge, position) => index.addEdge edge position)
      index).outgoing[id]?.getD #[]).toList =
      (index.outgoing[id]?.getD #[]).toList ++ edges.filter (·.source.node = id) := by
  induction edges generalizing start index with
  | nil => simp
  | cons edge edges ih =>
    rw [List.zipIdx_cons, List.foldl_cons, ih]
    simp only [addEdge, Std.TreeMap.getElem?_alter, Std.LawfulEqOrd.compare_eq_iff_eq]
    by_cases h : edge.source.node = id
    · subst h
      simp
    · simp [h]

theorem Index.getElem?_incoming_foldl_addEdge (edges : List Edge) (start : Nat) (index : Index)
    (ref : PortRef) :
    ((edges.zipIdx start).foldl (fun index (edge, position) => index.addEdge edge position)
      index).incoming[ref]? =
      index.incoming[ref]?.or ((edges.findIdx? (·.target.ref = ref)).map (start + ·)) := by
  induction edges generalizing start index with
  | nil => simp
  | cons edge edges ih =>
    rw [List.zipIdx_cons, List.foldl_cons, ih, List.findIdx?_cons]
    simp only [addEdge, Std.TreeMap.getElem?_insertIfNew, Std.LawfulEqOrd.compare_eq_iff_eq]
    by_cases h : edge.target.ref = ref
    · subst h
      by_cases hm : edge.target.ref ∈ index.incoming <;> simp [hm]
    · simp only [h, false_and, if_false, decide_false, Bool.false_eq_true, Option.map_map]
      congr 2
      funext position
      simp only [Function.comp_apply]
      omega

/-- Entering nodes enters no edges. -/
theorem Index.edges_ofNodes (nodes : Array Node) :
    (ofNodes nodes).outgoing = ∅ ∧ (ofNodes nodes).incoming = ∅ := by
  unfold ofNodes
  generalize nodes.toList.zipIdx = numbered
  have kept (index : Index) :
      (numbered.foldl (fun index (node, position) => index.addNode node position) index).outgoing =
        index.outgoing ∧
      (numbered.foldl (fun index (node, position) => index.addNode node position) index).incoming =
        index.incoming := by
    induction numbered generalizing index with
    | nil => exact ⟨rfl, rfl⟩
    | cons n numbered ih => exact ih (index.addNode n.1 n.2)
  exact kept empty

/-- The edges that leave a node, in document order. -/
theorem toList_edgesFrom (g : Graph) (id : NodeId) :
    (g.edgesFrom id).toList = g.edges.toList.filter (·.source.node = id) := by
  unfold edgesFrom
  rw [g.index_eq, Index.build, Index.getElem?_outgoing_foldl_addEdge, (Index.edges_ofNodes _).1]
  simp

/-- The index has the position of the first edge into an input port. -/
theorem getElem?_index_incoming (g : Graph) (ref : PortRef) :
    g.index.incoming[ref]? = g.edges.toList.findIdx? (·.target.ref = ref) := by
  rw [g.index_eq, Index.build, Index.getElem?_incoming_foldl_addEdge, (Index.edges_ofNodes _).2]
  simp

/-- The first edge into an input port. -/
theorem edgeInto_eq_find? (g : Graph) (id : NodeId) (input : Nat) :
    g.edgeInto id input = g.edges.toList.find? (·.target.ref = ⟨id, input⟩) := by
  rw [List.find?_eq_bind_findIdx?_getElem?, ← g.getElem?_index_incoming]
  simp only [edgeInto, Array.getElem?_toList]
  rfl

/-! ### Lookups by the lists -/

theorem target_ref_eq_iff {e : Edge} {id : NodeId} {input : Nat} :
    e.target.ref = ⟨id, input⟩ ↔ e.target.node = id ∧ e.target.port = input := by
  rw [Endpoint.ref, PortRef.mk.injEq]

theorem edgeInto_ofLists (nodes : List Node) (edges : List Edge) (id : NodeId) (input : Nat) :
    (ofLists nodes edges).edgeInto id input =
      edges.find? fun e => e.target.node = id ∧ e.target.port = input := by
  simp only [edgeInto_eq_find?, target_ref_eq_iff]
  rfl

/-- The item that is found stands at the position at which it is found. -/
theorem exists_getElem_of_findIdx? {α : Type} {p : α → Bool} {items : List α} {position : Nat}
    (h : items.findIdx? p = some position) :
    ∃ inside : position < items.length, items.find? p = some items[position] := by
  have inside := (List.findIdx?_eq_some_iff_getElem.mp h).1
  refine ⟨inside, ?_⟩
  rw [List.find?_eq_bind_findIdx?_getElem?, h, Option.bind_some, List.getElem?_eq_getElem inside]

/-- Lookups in the graph that is built from two lists give what searching the lists gives. -/
structure LooksUp (nodes : List Node) (edges : List Edge) : Prop where
  node (id : NodeId) : (ofLists nodes edges).findNode id = nodes.find? (·.id = id)
  no_node (id : NodeId) :
    (ofLists nodes edges).findNode id = none ↔ ∀ v ∈ nodes, v.id ≠ id
  leaving (id : NodeId) :
    ((ofLists nodes edges).edgesFrom id).toList = edges.filter (·.source.node = id)
  into (id : NodeId) (input : Nat) : (ofLists nodes edges).edgeInto id input =
    edges.find? fun e => e.target.node = id ∧ e.target.port = input
  none_into (id : NodeId) (input : Nat) : (ofLists nodes edges).edgeInto id input = none ↔
    ∀ e ∈ edges, ¬ (e.target.node = id ∧ e.target.port = input)
  /-- Edges are found as well if a document gives other directions to their ends. -/
  directions {turn : Edge → Edge}
    (h : ∀ e, (turn e).source.ref = e.source.ref ∧ (turn e).target.ref = e.target.ref) :
    (∀ id, ((ofLists nodes (edges.map turn)).edgesFrom id).toList =
      ((ofLists nodes edges).edgesFrom id).toList.map turn) ∧
    ∀ id input, (ofLists nodes (edges.map turn)).edgeInto id input =
      ((ofLists nodes edges).edgeInto id input).map turn
  /-- A position of a node lies in the list, and the node that is found stands there. -/
  node_position {id : NodeId} {position : Nat}
    (h : (ofLists nodes edges).index.nodes[id]? = some position) :
    ∃ inside : position < nodes.length, (ofLists nodes edges).findNode id = some nodes[position]
  /-- A position of an edge lies in the list, and the edge that is found stands there. -/
  edge_position {ref : PortRef} {position : Nat}
    (h : (ofLists nodes edges).index.incoming[ref]? = some position) :
    ∃ inside : position < edges.length,
      (ofLists nodes edges).edgeInto ref.node ref.port = some edges[position]

theorem looksUp_ofLists (nodes : List Node) (edges : List Edge) : LooksUp nodes edges where
  node := findNode_eq_find? _
  no_node id := by
    rw [findNode_eq_find?, List.find?_eq_none]
    simp [ofLists]
  leaving := toList_edgesFrom _
  into := edgeInto_ofLists nodes edges
  none_into id input := by
    rw [edgeInto_ofLists, List.find?_eq_none]
    simp
  directions {turn} h := by
    have source (e : Edge) : (turn e).source.node = e.source.node :=
      congrArg PortRef.node (h e).1
    have target (e : Edge) : (turn e).target.ref = e.target.ref := (h e).2
    constructor
    · intro id
      rw [toList_edgesFrom, toList_edgesFrom]
      simp [ofLists, List.filter_map, Function.comp_def, source]
    · intro id input
      rw [edgeInto_eq_find?, edgeInto_eq_find?]
      simp only [ofLists, List.toList_toArray, List.find?_map, Function.comp_def, target]
  node_position h := by
    rw [getElem?_index_nodes] at h
    obtain ⟨inside, found⟩ := exists_getElem_of_findIdx? h
    exact ⟨inside, (findNode_eq_find? _ _).trans found⟩
  edge_position h := by
    rw [getElem?_index_incoming] at h
    obtain ⟨inside, found⟩ := exists_getElem_of_findIdx? h
    exact ⟨inside, (edgeInto_eq_find? _ _ _).trans found⟩

end ScriptGraph.Graph
