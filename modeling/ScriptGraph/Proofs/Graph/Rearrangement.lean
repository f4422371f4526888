import ScriptGraph.Proofs.Graph.Thinning

/-! # Rearranged graphs

The order in which a document lists nodes and edges matters for few things: which entry node comes
first, which edge leaves an output first, and which edge is the first into an input. Where these
orders are kept, a node is found by its id, has the same producers behind its inputs and the same
control successors along its outputs.
-/

namespace ScriptGraph

variable {g g' : Graph} {registry : Registry}

/-- The same nodes and edges in another order. Entry nodes keep their order among each other, and so
do the edges that leave one output and the edges into one input. -/
structure Graph.Rearranged (registry : Registry) (g g' : Graph) : Prop where
  nodes : g.nodes.toList.Perm g'.nodes.toList
  entries : (Workspace.mk g registry).entryNodes = (Workspace.mk g' registry).entryNodes
  edges : g.edges.toList.Perm g'.edges.toList
  outputs (ref : PortRef) : g.edges.toList.filter (·.source.ref = ref) =
    g'.edges.toList.filter (·.source.ref = ref)
  inputs (ref : PortRef) : g.edges.toList.filter (·.target.ref = ref) =
    g'.edges.toList.filter (·.target.ref = ref)

namespace Graph

theorem findNode_eq_some_iff (hu : (g.nodes.toList.map (·.id)).Nodup) {id : NodeId} {v : Node} :
    g.findNode id = some v ↔ v ∈ g.nodes.toList ∧ v.id = id := by
  constructor
  · exact mem_of_findNode
  · rintro ⟨hv, rfl⟩
    exact findNode_of_mem hu hv

namespace Rearranged

variable (h : Rearranged registry g g')
include h

theorem nodup_ids (hu : (g.nodes.toList.map (·.id)).Nodup) :
    (g'.nodes.toList.map (·.id)).Nodup :=
  (h.nodes.map _).nodup_iff.mp hu

theorem findNode_eq (hu : (g.nodes.toList.map (·.id)).Nodup) (id : NodeId) :
    g.findNode id = g'.findNode id := by
  ext v
  rw [findNode_eq_some_iff hu, findNode_eq_some_iff (h.nodup_ids hu), h.nodes.mem_iff]

theorem edgeInto_eq (id : NodeId) (input : Nat) : g.edgeInto id input = g'.edgeInto id input := by
  rw [edgeInto_eq_find?, edgeInto_eq_find?, ← List.head?_filter, ← List.head?_filter, h.inputs]

/-- The edges that leave a node are the same, output by output. -/
theorem filter_edgesFrom_eq (id : NodeId) (p : Nat) :
    (g.edgesFrom id).toList.filter (·.source.port = p) =
      (g'.edgesFrom id).toList.filter (·.source.port = p) := by
  have ref (edges : List Edge) : (edges.filter (·.source.node = id)).filter (·.source.port = p) =
      edges.filter (·.source.ref = ⟨id, p⟩) := by
    rw [List.filter_filter]
    refine List.filter_congr fun edge _ => ?_
    rw [← Bool.decide_and, decide_eq_decide, Endpoint.ref, PortRef.mk.injEq]
    exact and_comm
  rw [toList_edgesFrom, toList_edgesFrom, ref, ref, h.outputs]

theorem controlSuccessors_eq (hu : (g.nodes.toList.map (·.id)).Nodup) (v : Node)
    (port : Option Nat) :
    (Workspace.mk g registry).controlSuccessors v port =
      (Workspace.mk g' registry).controlSuccessors v port := by
  let followed (edge : Edge) : Bool :=
    port.all (edge.source.port = ·) && (Workspace.mk g registry).isControl v edge
  have sorted : Workspace.sortByPort ((g.edgesFrom v.id).toList.filter followed) =
      Workspace.sortByPort ((g'.edgesFrom v.id).toList.filter followed) := by
    refine Workspace.eq_of_filter_port (Workspace.sorted_sortByPort _)
      (Workspace.sorted_sortByPort _) fun p => ?_
    rw [Workspace.filter_sortByPort, Workspace.filter_sortByPort, List.filter_comm,
      h.filter_edgesFrom_eq, List.filter_comm]
  have found : (fun edge : Edge => g.findNode edge.target.node) =
      fun edge => g'.findNode edge.target.node :=
    funext fun edge => h.findNode_eq hu _
  change (Workspace.sortByPort ((g.edgesFrom v.id).toList.filter followed)).filterMap _ =
    (Workspace.sortByPort ((g'.edgesFrom v.id).toList.filter followed)).filterMap _
  rw [sorted, found]

theorem producer?_eq (hu : (g.nodes.toList.map (·.id)).Nodup) (v : Node) (index : Nat) :
    (Workspace.mk g registry).producer? v index = (Workspace.mk g' registry).producer? v index := by
  unfold Workspace.producer?
  simp only [h.edgeInto_eq, h.findNode_eq hu]

/-- From every node a rearranged graph looks the same. -/
theorem thinned (hu : (g.nodes.toList.map (·.id)).Nodup) :
    (Workspace.mk g registry).Thinned ⟨g', registry⟩ where
  inputs _ := ⟨rfl, h.producer?_eq hu _⟩
  successors _ port := h.controlSuccessors_eq hu _ port ▸ .refl ..
  entries := h.entries ▸ .refl ..

end Rearranged

end Graph

end ScriptGraph
