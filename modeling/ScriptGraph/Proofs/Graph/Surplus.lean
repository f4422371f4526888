import ScriptGraph.Proofs.Graph.Thinning

/-! # Surplus edges and nodes

Of several edges into one input the first is its producer, and of several nodes with one id the first
is found. What is left of a graph without the others looks thinned from it: edges may be left out
unless they carry control where none before does, and nodes unless a walk starts at them.
-/

namespace ScriptGraph

/-- An edge before ends at the same input. -/
def Edge.isLate (before : List Edge) (edge : Edge) : Bool :=
  before.any (·.target.ref = edge.target.ref)

/-- A node before has the same id. -/
def Node.isShadowed (before : List Node) (node : Node) : Bool :=
  before.any (·.id = node.id)

namespace Graph

/-- The graph without its surplus edges. -/
def withoutEdges (surplus : (before : List Edge) → Edge → Bool) (g : Graph) : Graph :=
  .ofLists g.nodes.toList (withoutSurplus surplus [] g.edges.toList)

/-- The graph without nodes that have the id of a node before. -/
def withoutShadowed (g : Graph) : Graph :=
  .ofLists (withoutSurplus Node.isShadowed [] g.nodes.toList) g.edges.toList

end Graph

namespace Workspace

variable {w : Workspace}

/-- Whether control may come by an edge: the output that it leaves carries control, at some node with
the id. -/
def carriesControl (w : Workspace) (edge : Edge) : Bool :=
  w.graph.nodes.toList.any fun v => w.leads v none edge

/-- An edge before ends at the same input, and either no control comes by this one, or control
has taken the same course before. -/
def isSpare (w : Workspace) (before : List Edge) (edge : Edge) : Bool :=
  edge.isLate before && (!w.carriesControl edge || before.any (·.course = edge.course))

theorem exists_of_isLate {before : List Edge} {edge : Edge} (h : edge.isLate before) :
    ∃ e ∈ before, e.target.ref = edge.target.ref := by
  simpa [Edge.isLate] using h

theorem leads_of_course_eq {v : Node} {port : Option Nat} {edge edge' : Edge}
    (h : edge.course = edge'.course) : w.leads v port edge = w.leads v port edge' := by
  have node : edge.source.node = edge'.source.node := congrArg (·.1.node) h
  have output : edge.source.port = edge'.source.port := congrArg (·.1.port) h
  unfold leads isControl
  rw [node, output]

/-- Where a node leads to along an edge, control comes by it. -/
theorem carriesControl_of_leads {v : Node} (hv : v ∈ w.graph.nodes.toList) {port : Option Nat}
    {edge : Edge} (h : w.leads v port edge) : w.carriesControl edge := by
  refine List.any_eq_true.mpr ⟨v, hv, ?_⟩
  simp only [leads, Bool.and_eq_true] at h ⊢
  exact ⟨h.1, rfl, h.2.2⟩

theorem edgeInto_withoutEdges (w : Workspace) (id : NodeId) (index : Nat) :
    (w.graph.withoutEdges w.isSpare).edgeInto id index = w.graph.edgeInto id index := by
  rw [Graph.edgeInto_eq_find?, Graph.edgeInto_eq_find?]
  refine find?_withoutSurplus fun before e hd he => ?_
  obtain ⟨b, hm, hb⟩ := exists_of_isLate (Bool.and_eq_true_iff.mp hd).1
  exact ⟨b, hm, by simpa [hb] using he⟩

/-- A graph looks the same without edges that are surplus to the producers of their inputs, if those
that carry control are surplus to others of the same course. -/
theorem thinned_withoutEdges (w : Workspace) :
    w.Thinned ⟨w.graph.withoutEdges w.isSpare, w.registry⟩ := by
  have found (id : NodeId) :
      w.graph.findNode id = (w.graph.withoutEdges w.isSpare).findNode id := by
    rw [Graph.findNode_eq_find?, Graph.findNode_eq_find?]
    rfl
  constructor
  case inputs =>
    intro v _
    exact .of_edgeInto rfl (fun index => (w.edgeInto_withoutEdges v.id index).symm)
      fun _ _ => found _
  case entries => exact .refl ..
  case successors =>
    intro v hv port
    refine thins_controlSuccessors ?_ fun _ _ => found _
    refine thins_filter_withoutSurplus (by simp) fun first e _ _ hd he => ?_
    have control : w.carriesControl e := carriesControl_of_leads hv he
    obtain ⟨b, hm, hb⟩ : ∃ b ∈ first, b.course = e.course := by
      simpa [isSpare, control] using (Bool.and_eq_true_iff.mp hd).2
    exact ⟨b, hm, leads_of_course_eq hb ▸ he, hb⟩

end Workspace

namespace Graph

variable {g : Graph}

theorem exists_of_isShadowed {before : List Node} {v : Node} (h : v.isShadowed before) :
    ∃ u ∈ before, u.id = v.id := by
  simpa [Node.isShadowed] using h

theorem edgeInto_withoutShadowed (g : Graph) (id : NodeId) (index : Nat) :
    g.withoutShadowed.edgeInto id index = g.edgeInto id index := by
  rw [edgeInto_eq_find?, edgeInto_eq_find?]
  rfl

theorem findNode_withoutShadowed (g : Graph) (id : NodeId) :
    g.withoutShadowed.findNode id = g.findNode id := by
  rw [findNode_eq_find?, findNode_eq_find?]
  refine find?_withoutSurplus fun before v hd hv => ?_
  obtain ⟨u, hm, hu⟩ := exists_of_isShadowed hd
  exact ⟨u, hm, by simpa [hu] using hv⟩

/-- Nodes that have the id of a node before them have a property. -/
def AllShadowed (g : Graph) (P : Node → Prop) : Prop :=
  g.nodes.toList.Pairwise fun u v => u.id = v.id → P v

theorem AllShadowed.of_split {P : Node → Prop} (h : g.AllShadowed P) {first rest : List Node}
    {v : Node} (hs : g.nodes.toList = first ++ v :: rest) (hd : v.isShadowed first) : P v := by
  obtain ⟨u, hm, hu⟩ := exists_of_isShadowed hd
  unfold AllShadowed at h
  rw [hs] at h
  exact (List.pairwise_append.mp h).2.2 u hm v List.mem_cons_self hu

theorem filter_withoutShadowed {p : Node → Bool} (h : g.AllShadowed fun v => ¬ p v) :
    g.withoutShadowed.nodes.toList.filter p = g.nodes.toList.filter p :=
  filter_withoutSurplus fun _ _ _ hs hd => h.of_split hs hd

theorem thins_withoutShadowed {p : Node → Bool}
    (h : g.AllShadowed fun v => p v → (g.findNode v.id).any p) :
    Thins Node.id [] (g.nodes.toList.filter p) (g.withoutShadowed.nodes.toList.filter p) := by
  refine thins_filter_withoutSurplus (by simp) fun first v rest hs hd hv => ?_
  obtain ⟨u, hu, hp⟩ := (Option.any_eq_true _ _).mp (h.of_split hs hd hv)
  obtain ⟨b, hm, hb⟩ := exists_of_isShadowed hd
  -- the first node with the id stands before this one
  rw [findNode_eq_find?, hs, List.find?_append, Option.or_eq_some_iff] at hu
  rcases hu with hu | ⟨none, -⟩
  · exact ⟨u, List.mem_of_find?_eq_some hu, hp, by simpa using List.find?_some hu⟩
  · exact absurd hb (by simpa using List.find?_eq_none.mp none b hm)

theorem requiresAsync_withoutShadowed {registry : Registry}
    (h : g.AllShadowed fun v => registry.requiresAsync v.kind →
      (Workspace.mk g.withoutShadowed registry).requiresAsync) :
    (Workspace.mk g.withoutShadowed registry).requiresAsync =
      (Workspace.mk g registry).requiresAsync := by
  rw [Workspace.requiresAsync_eq_any, Workspace.requiresAsync_eq_any]
  cases hr : (Workspace.mk g.withoutShadowed registry).requiresAsync with
  | true =>
    rw [Workspace.requiresAsync_eq_any] at hr
    obtain ⟨v, hv, ha⟩ := List.any_eq_true.mp hr
    rw [hr, List.any_eq_true.mpr ⟨v, withoutSurplus_sublist.subset hv, ha⟩]
  | false =>
    exact any_eq_of_filter_eq <| filter_withoutShadowed <| h.imp fun ha hid hv => by
      simp [ha hid hv] at hr

/-- A graph looks the same without shadowed nodes, if entry nodes are shadowed by entry nodes. -/
theorem thinned_withoutShadowed {registry : Registry}
    (h : g.AllShadowed fun v => registry.isEntry v.kind →
      (g.findNode v.id).any (registry.isEntry ·.kind)) :
    (Workspace.mk g registry).Thinned ⟨g.withoutShadowed, registry⟩ where
  inputs _ := .of_edgeInto rfl (fun index => (g.edgeInto_withoutShadowed _ index).symm)
    fun _ _ => (g.findNode_withoutShadowed _).symm
  successors _ _ :=
    Workspace.thins_controlSuccessors (.refl ..) fun _ _ => (g.findNode_withoutShadowed _).symm
  entries := thins_withoutShadowed h

end Graph

end ScriptGraph
