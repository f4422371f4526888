import ScriptGraph.Proofs.Graph.Issues
import ScriptGraph.Proofs.Graph.Successors

/-! # Connections of a sound graph

In a graph without structural problems every edge takes part in the walk or in the reading of
inputs: along a control edge the walk goes from its source to its target, and behind the input that
a data edge ends at stands its source with the output that the edge leaves.
-/

namespace ScriptGraph

namespace Graph

variable {g : Graph} {e : Edge}

/-- Where an input port has one producer, the edge into it is that one. -/
theorem edgeInto_of_mem {id : NodeId} {input : Nat} (single : g.fanIn ⟨id, input⟩ ≤ 1)
    (he : e ∈ g.edges.toList) (ht : e.target.ref = ⟨id, input⟩) :
    g.edgeInto id input = some e := by
  have into : e ∈ g.edges.toList.filter (·.target.ref = ⟨id, input⟩) := by
    simpa [ht] using he
  rw [fanIn, List.countP_eq_length_filter] at single
  rw [edgeInto_eq_find?, ← List.head?_filter]
  obtain ⟨f, hf⟩ := List.length_eq_one_iff.mp (Nat.le_antisymm single (List.length_pos_of_mem into))
  rw [hf] at into ⊢
  rw [List.mem_singleton.mp into]
  rfl

end Graph

namespace Workspace

/-- An edge from an output of one node to an input of another is followed, by the walk if it carries
control, and by whoever reads the input if it carries data. -/
inductive Carried (w : Workspace) (a : Node) (output : Nat) (b : Node) (input : Nat) : Prop where
  | control {outputs inputs : Ports} :
      w.registry.portsOf? a = some outputs → outputs.outputKind? output = some .control →
      w.registry.portsOf? b = some inputs → inputs.inputKind? input = some .control →
      b ∈ w.controlSuccessors a none → b ∈ w.controlSuccessors a (some output) →
      w.Carried a output b input
  | data {outputs inputs : Ports} :
      w.registry.portsOf? a = some outputs → outputs.outputKind? output = some .data →
      w.registry.portsOf? b = some inputs → inputs.inputKind? input = some .data →
      w.producer? b input = some (a, output) → w.Carried a output b input

variable {w : Workspace} {e : Edge} {a b : Node}

theorem mem_controlSuccessors_of_mem {outputs : Ports} {port : Option Nat}
    (he : e ∈ w.graph.edges.toList) (ha : e.source.node = a.id)
    (hb : w.graph.findNode e.target.node = some b) (ho : w.registry.portsOf? a = some outputs)
    (hk : outputs.outputKind? e.source.port = some .control)
    (hp : port.all (e.source.port = ·)) : b ∈ w.controlSuccessors a port := by
  refine mem_controlSuccessors.mpr ⟨e, ?_, hp, ?_, hb⟩
  · rw [Graph.toList_edgesFrom]
    simpa [ha] using he
  · simp [isControl, ho, hk]

namespace Sound

variable (h : w.Sound) (he : e ∈ w.graph.edges.toList)

include h he

theorem producer?_eq (ha : w.graph.findNode e.source.node = some a)
    (hb : e.target.node = b.id) : w.producer? b e.target.port = some (a, e.source.port) := by
  have into : w.graph.edgeInto b.id e.target.port = some e :=
    Graph.edgeInto_of_mem (h.single _) he (by rw [Endpoint.ref, hb])
  simp [producer?, into, ha]

/-- At each end of an edge there is a node of a known kind. -/
theorem exists_ends : ∃ a b outputs inputs,
    w.graph.findNode e.source.node = some a ∧ w.graph.findNode e.target.node = some b ∧
    w.registry.portsOf? a = some outputs ∧ w.registry.portsOf? b = some inputs := by
  have found {id : NodeId} (hd : w.graph.declarations id ≠ 0) :
      ∃ v ports, w.graph.findNode id = some v ∧ w.registry.portsOf? v = some ports := by
    obtain ⟨v, hv⟩ := Option.ne_none_iff_exists'.mp (mt Graph.findNode_eq_none_iff.mp hd)
    obtain ⟨d, hd⟩ := Option.isSome_iff_exists.mp (h.known v (Graph.mem_of_findNode hv).1)
    have known : w.registry.get? v.kind = some d := hd
    exact ⟨v, _, hv, by rw [Registry.portsOf?, Registry.derivePorts?, known]; rfl⟩
  obtain ⟨a, outputs, ha, ho⟩ := found (h.ends e he).1
  obtain ⟨b, inputs, hb, hi⟩ := found (h.ends e he).2
  exact ⟨a, b, outputs, inputs, ha, hb, ho, hi⟩

end Sound

/-- No edge of a graph without issues is passed over. -/
theorem edge_carried (hw : w.issues = []) (he : e ∈ w.graph.edges.toList) :
    ∃ a b, w.graph.findNode e.source.node = some a ∧ w.graph.findNode e.target.node = some b ∧
      w.Carried a e.source.port b e.target.port := by
  have sound := issues_eq_nil_iff.mp hw
  obtain ⟨a, b, outputs, inputs, ha, hb, ho, hi⟩ := sound.exists_ends he
  have source := (Graph.mem_of_findNode ha).2.symm
  have target := (Graph.mem_of_findNode hb).2.symm
  obtain ⟨kind, hs, ht⟩ := sound.fits e he outputs inputs
    (portsAt?_eq_some_iff.mpr ⟨a, ha, ho⟩) (portsAt?_eq_some_iff.mpr ⟨b, hb, hi⟩)
  refine ⟨a, b, ha, hb, ?_⟩
  cases kind with
  | control =>
    exact .control ho hs hi ht (mem_controlSuccessors_of_mem he source hb ho hs rfl)
      (mem_controlSuccessors_of_mem he source hb ho hs (by simp))
  | data => exact .data ho hs hi ht (sound.producer?_eq he ha target)

/-- A switch that shows a number in its case, which is the one that its kind offers by default. -/
def derivedPort : Workspace where
  graph := .ofLists
    [{ id := .ofNat 1, kind := Kind.onStart.name },
      { id := .ofNat 2, kind := Kind.switch.name },
      { id := .ofNat 3, kind := Kind.constant.name },
      { id := .ofNat 4, kind := Kind.log.name }]
    [.between (.ofNat 1) 0 (.ofNat 2) 0, .between (.ofNat 3) 0 (.ofNat 2) 1,
      .between (.ofNat 2) 1 (.ofNat 4) 0, .between (.ofNat 3) 0 (.ofNat 4) 1]
  registry := .builtin

theorem derivedPort_edge_carried :
    derivedPort.issues = [] ∧
    Edge.between (.ofNat 2) 1 (.ofNat 4) 0 ∈ derivedPort.graph.edges.toList ∧
    ∃ a b, derivedPort.graph.findNode (.ofNat 2) = some a ∧
      derivedPort.graph.findNode (.ofNat 4) = some b ∧ derivedPort.Carried a 1 b 0 := by
  have clean : derivedPort.issues = [] := by decide +kernel
  have mem : Edge.between (.ofNat 2) 1 (.ofNat 4) 0 ∈ derivedPort.graph.edges.toList := by
    decide +kernel
  exact ⟨clean, mem, edge_carried clean mem⟩

end Workspace

end ScriptGraph
