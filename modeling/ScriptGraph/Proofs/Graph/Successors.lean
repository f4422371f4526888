import Mathlib.Data.Finset.Sort
import Mathlib.Data.List.Perm.Subperm
import ScriptGraph.Graph.Walk
import ScriptGraph.Proofs.Graph.Lookup

/-! # Control successors and producers

Which nodes the control edges of a node lead to, and which node is behind an input. The successors
along all outputs are those along each output together, and those along different outputs come from
different edges.
-/

namespace ScriptGraph.Workspace

variable {w : Workspace} {node v : Node} {port : Option Nat}

theorem requiresAsync_eq_any (w : Workspace) :
    w.requiresAsync = w.graph.nodes.toList.any fun v => w.registry.requiresAsync v.kind :=
  Array.any_toList.symm

theorem insertByPort_perm (edge : Edge) (edges : List Edge) :
    (insertByPort edge edges).Perm (edge :: edges) := by
  induction edges with
  | nil => exact .refl _
  | cons other edges ih =>
    unfold insertByPort
    split
    · exact .refl _
    · exact (ih.cons other).trans (.swap ..)

theorem sortByPort_perm (edges : List Edge) : (sortByPort edges).Perm edges := by
  induction edges with
  | nil => exact .refl _
  | cons edge edges ih => exact (insertByPort_perm edge _).trans (ih.cons edge)

theorem sorted_insertByPort (edge : Edge) {edges : List Edge}
    (h : edges.Pairwise (·.source.port ≤ ·.source.port)) :
    (insertByPort edge edges).Pairwise (·.source.port ≤ ·.source.port) := by
  induction edges with
  | nil => exact List.pairwise_singleton _ _
  | cons other edges ih =>
    obtain ⟨first, rest⟩ := List.pairwise_cons.mp h
    unfold insertByPort
    split
    next hle =>
      refine List.pairwise_cons.mpr ⟨fun e he => ?_, h⟩
      rcases List.mem_cons.mp he with rfl | he
      · exact hle
      · exact Nat.le_trans hle (first e he)
    next hlt =>
      refine List.pairwise_cons.mpr ⟨fun e he => ?_, ih rest⟩
      rcases List.mem_cons.mp ((insertByPort_perm edge edges).mem_iff.mp he) with rfl | he
      · exact Nat.le_of_not_le hlt
      · exact first e he

theorem sorted_sortByPort (edges : List Edge) :
    (sortByPort edges).Pairwise (·.source.port ≤ ·.source.port) := by
  induction edges with
  | nil => exact .nil
  | cons edge edges ih => exact sorted_insertByPort edge ih

theorem filter_insertByPort (edge : Edge) (edges : List Edge) (p : Nat) :
    (insertByPort edge edges).filter (·.source.port = p) =
      (edge :: edges).filter (·.source.port = p) := by
  induction edges with
  | nil => rfl
  | cons other edges ih =>
    unfold insertByPort
    split
    next => rfl
    next hlt =>
      rw [List.filter_cons, ih]
      by_cases he : edge.source.port = p
      · have ho : other.source.port ≠ p := by omega
        simp [he, ho]
      · simp [he, List.filter_cons]

/-- Edges of one port keep their order. -/
theorem filter_sortByPort (edges : List Edge) (p : Nat) :
    (sortByPort edges).filter (·.source.port = p) = edges.filter (·.source.port = p) := by
  induction edges with
  | nil => rfl
  | cons edge edges ih =>
    change (insertByPort edge (sortByPort edges)).filter _ = _
    rw [filter_insertByPort, List.filter_cons, List.filter_cons, ih]

/-- Lists in the order of ports are equal if they are port by port. -/
theorem eq_of_filter_port {edges edges' : List Edge}
    (hs : edges.Pairwise (·.source.port ≤ ·.source.port))
    (hs' : edges'.Pairwise (·.source.port ≤ ·.source.port))
    (h : ∀ p, edges.filter (·.source.port = p) = edges'.filter (·.source.port = p)) :
    edges = edges' := by
  induction edges generalizing edges' with
  | nil =>
    cases edges' with
    | nil => rfl
    | cons edge' edges' => simpa using h edge'.source.port
  | cons edge edges ih =>
    cases edges' with
    | nil => simpa using h edge.source.port
    | cons edge' edges' =>
      obtain ⟨first, rest⟩ := List.pairwise_cons.mp hs
      obtain ⟨first', rest'⟩ := List.pairwise_cons.mp hs'
      have le {e e' : Edge} {l l' : List Edge} (hf : ∀ u ∈ l', e'.source.port ≤ u.source.port)
          (h : ∀ p, (e :: l).filter (·.source.port = p) = (e' :: l').filter (·.source.port = p)) :
          e'.source.port ≤ e.source.port := by
        have mem : e ∈ (e' :: l').filter (·.source.port = e.source.port) := by
          rw [← h]
          simp
        rcases List.mem_cons.mp (List.mem_of_mem_filter mem) with rfl | hm
        · exact Nat.le_refl _
        · exact hf e hm
      have port : edge.source.port = edge'.source.port :=
        Nat.le_antisymm (le first fun p => (h p).symm) (le first' h)
      obtain ⟨rfl, -⟩ : edge = edge' ∧ _ := by
        simpa [port] using h edge'.source.port
      refine congrArg (edge :: ·) (ih rest rest' fun p => ?_)
      have := h p
      rw [List.filter_cons, List.filter_cons] at this
      split at this
      next => exact (List.cons.inj this).2
      next => exact this

theorem mem_controlSuccessors :
    v ∈ w.controlSuccessors node port ↔
      ∃ edge ∈ (w.graph.edgesFrom node.id).toList, port.all (edge.source.port = ·) ∧
        w.isControl node edge ∧ w.graph.findNode edge.target.node = some v := by
  unfold controlSuccessors
  simp only [List.mem_filterMap, (sortByPort_perm _).mem_iff, List.mem_filter, Bool.and_eq_true,
    and_assoc]

theorem mem_nodes_of_mem_controlSuccessors (h : v ∈ w.controlSuccessors node port) :
    v ∈ w.graph.nodes.toList := by
  obtain ⟨_, _, _, _, hf⟩ := mem_controlSuccessors.mp h
  exact (Graph.mem_of_findNode hf).1

/-- The edges that leave the ports on a list without repetition, port by port. -/
theorem flatMap_filter_port_perm {ports : List Nat} (h : ports.Nodup) (edges : List Edge) :
    (ports.flatMap fun p => edges.filter (·.source.port = p)).Perm
      (edges.filter (·.source.port ∈ ports)) := by
  induction ports with
  | nil => simp
  | cons p ports ih =>
    obtain ⟨hp, hn⟩ := List.nodup_cons.mp h
    have first : (edges.filter (·.source.port ∈ p :: ports)).filter (·.source.port = p) =
        edges.filter (·.source.port = p) := by
      rw [List.filter_filter]
      exact List.filter_congr fun edge _ => by by_cases he : edge.source.port = p <;> simp [he]
    have others : (edges.filter (·.source.port ∈ p :: ports)).filter
        (fun edge => !decide (edge.source.port = p)) =
        edges.filter (·.source.port ∈ ports) := by
      rw [List.filter_filter]
      refine List.filter_congr fun edge _ => ?_
      by_cases he : edge.source.port = p <;> simp [he, hp]
    rw [List.flatMap_cons, ← first]
    refine ((ih hn).append_left _).trans ?_
    rw [← others]
    exact List.filter_append_perm _ _

/-- Successors along different outputs are counted apart. -/
theorem flatMap_controlSuccessors_subperm {ports : List Nat} (h : ports.Nodup) :
    (ports.flatMap fun p => w.controlSuccessors node (some p)).Subperm
      (w.controlSuccessors node none) := by
  let edges := (w.graph.edgesFrom node.id).toList.filter (w.isControl node)
  let find (edge : Edge) := w.graph.findNode edge.target.node
  have all : (w.controlSuccessors node none).Perm (edges.filterMap find) := by
    unfold controlSuccessors
    simpa [edges] using (sortByPort_perm _).filterMap find
  have along (p : Nat) : (w.controlSuccessors node (some p)).Perm
      ((edges.filter (·.source.port = p)).filterMap find) := by
    unfold controlSuccessors
    refine ((sortByPort_perm _).filterMap find).trans ?_
    simp [edges, List.filter_filter]
  have step : (ports.flatMap fun p => w.controlSuccessors node (some p)).Perm
      ((ports.flatMap fun p => edges.filter (·.source.port = p)).filterMap find) := by
    rw [List.filterMap_flatMap]
    exact List.Perm.flatMap_left _ fun p _ => along p
  refine (step.trans ((flatMap_filter_port_perm h edges).filterMap find)).subperm.trans ?_
  exact (List.filter_sublist.filterMap find).subperm.trans all.symm.subperm

theorem findNode_of_mem_controlSuccessors (h : v ∈ w.controlSuccessors node port) :
    w.graph.findNode v.id = some v := by
  obtain ⟨_, _, _, _, hf⟩ := mem_controlSuccessors.mp h
  rw [(Graph.mem_of_findNode hf).2]
  exact hf

theorem findNode_of_producer? {index output : Nat} (h : w.producer? node index = some (v, output)) :
    w.graph.findNode v.id = some v := by
  unfold producer? at h
  simp only [Option.bind_eq_bind, Option.bind_eq_some_iff, Option.pure_def, Option.some.injEq,
    Prod.mk.injEq] at h
  obtain ⟨_, _, _, hf, rfl, _⟩ := h
  rw [(Graph.mem_of_findNode hf).2]
  exact hf

theorem mem_nodes_of_producer? {index output : Nat}
    (h : w.producer? node index = some (v, output)) : v ∈ w.graph.nodes.toList :=
  (Graph.mem_of_findNode (findNode_of_producer? h)).1

/-- Who is wired to a node that keeps no value by itself is given what has been recorded. -/
theorem resolveInput_of_producer {α : Type} {source : OutputSource α} {index output : Nat}
    (hp : w.producer? node index = some (v, output)) (hv : v.kind ≠ Kind.var.name)
    (hn : source.literalDefault v = none) :
    w.resolveInput source node index = source.recorded ⟨v.id, output⟩ := by
  rw [resolveInput, hp]
  simp [hv, hn]

/-! ### Output by output -/

/-- Edges that leave one output are in the order of ports as they are. -/
theorem sortByPort_of_port {edges : List Edge} {p : Nat} (h : ∀ e ∈ edges, e.source.port = p) :
    sortByPort edges = edges := by
  have sorted : (sortByPort edges).filter (·.source.port = p) = sortByPort edges :=
    List.filter_eq_self.mpr fun e he => by simpa using h e ((sortByPort_perm edges).mem_iff.mp he)
  have all : edges.filter (·.source.port = p) = edges :=
    List.filter_eq_self.mpr fun e he => by simpa using h e he
  rw [← sorted, filter_sortByPort, all]

/-- Of the edges that are listed port by port, those of one port are listed with it. -/
theorem filter_flatMap_port {ports : List Nat} (hn : ports.Nodup) (edges : List Edge) (p : Nat) :
    (ports.flatMap fun q => edges.filter (·.source.port = q)).filter (·.source.port = p) =
      if p ∈ ports then edges.filter (·.source.port = p) else [] := by
  induction ports with
  | nil => rfl
  | cons q ports ih =>
    obtain ⟨hq, hn⟩ := List.nodup_cons.mp hn
    rw [List.flatMap_cons, List.filter_append, ih hn, List.filter_filter]
    by_cases h : p = q
    · subst h
      simp [hq]
    · have none : edges.filter (fun e => e.source.port = p && e.source.port = q) = [] :=
        List.filter_eq_nil_iff.mpr fun e _ => by simp; omega
      simp [none, h]

/-- To sort edges is to list them port by port. -/
theorem sortByPort_eq_flatMap {ports : List Nat} (hs : ports.Pairwise (· < ·)) {edges : List Edge}
    (h : ∀ e ∈ edges, e.source.port ∈ ports) :
    sortByPort edges = ports.flatMap fun p => edges.filter (·.source.port = p) := by
  have of_port {p : Nat} {e : Edge} (he : e ∈ edges.filter (·.source.port = p)) :
      e.source.port = p := by
    simpa using (List.mem_filter.mp he).2
  refine eq_of_filter_port (sorted_sortByPort edges) ?_ fun p => ?_
  · refine List.pairwise_flatMap.mpr ⟨fun p _ => ?_, hs.imp fun hpq e he e' he' => ?_⟩
    · refine List.pairwise_iff_forall_sublist.mpr fun both => ?_
      rw [of_port (both.subset (by simp)), of_port (both.subset (by simp))]
    · rw [of_port he, of_port he']
      exact Nat.le_of_lt hpq
  · rw [filter_sortByPort, filter_flatMap_port hs.nodup]
    split
    next => rfl
    next hp =>
      refine List.filter_eq_nil_iff.mpr fun e he => ?_
      intro hep
      exact hp (of_decide_eq_true hep ▸ h e he)

/-- The outputs of a node that edges leave, each once, in ascending order. -/
def outputsInUse (w : Workspace) (node : Node) : List Nat :=
  ((w.graph.edgesFrom node.id).toList.map (·.source.port)).toFinset.sort

theorem sorted_outputsInUse (w : Workspace) (node : Node) :
    (w.outputsInUse node).Pairwise (· < ·) :=
  (Finset.sortedLT_sort _).pairwise

theorem mem_outputsInUse {p : Nat} : p ∈ w.outputsInUse node ↔
    ∃ e ∈ w.graph.edges.toList, e.source.node = node.id ∧ e.source.port = p := by
  simp [outputsInUse, Graph.toList_edgesFrom, and_assoc]

/-- The nodes at the ends of the edges that leave an output, in document order. -/
def endsOf (w : Workspace) (node : Node) (port : Nat) : List Node :=
  let edges := w.graph.edges.toList.filter fun e => e.source.node = node.id ∧ e.source.port = port
  edges.filterMap fun e => w.graph.findNode e.target.node

/-- Whether control leaves an output. At a node of unknown kind it leaves every output. -/
def LeadsOn (w : Workspace) (node : Node) (port : Nat) : Prop :=
  ∀ ports ∈ w.registry.portsOf? node, ports.outputKind? port = some .control

theorem isControl_iff {edge : Edge} : w.isControl node edge ↔ w.LeadsOn node edge.source.port := by
  unfold isControl LeadsOn
  cases w.registry.portsOf? node <;> simp

theorem controlSuccessors_some (w : Workspace) (node : Node) (p : Nat) :
    w.controlSuccessors node (some p) =
      (((w.graph.edgesFrom node.id).toList.filter (w.isControl node)).filter
        (·.source.port = p)).filterMap fun edge => w.graph.findNode edge.target.node := by
  unfold controlSuccessors
  dsimp only
  rw [sortByPort_of_port fun e he => by simp at he; exact he.2.1, List.filter_filter]
  simp

theorem controlSuccessors_none (w : Workspace) (node : Node) :
    w.controlSuccessors node none =
      (w.outputsInUse node).flatMap fun p => w.controlSuccessors node (some p) := by
  have used : ∀ e ∈ (w.graph.edgesFrom node.id).toList.filter (w.isControl node),
      e.source.port ∈ w.outputsInUse node := by
    intro e he
    have leaving := List.mem_of_mem_filter he
    rw [Graph.toList_edgesFrom, List.mem_filter] at leaving
    exact mem_outputsInUse.mpr ⟨e, leaving.1, of_decide_eq_true leaving.2, rfl⟩
  simp only [controlSuccessors_some, ← List.filterMap_flatMap]
  rw [← sortByPort_eq_flatMap (sorted_outputsInUse w node) used]
  unfold controlSuccessors
  simp

theorem controlSuccessors_of_leadsOn {p : Nat} (h : w.LeadsOn node p) :
    w.controlSuccessors node (some p) = w.endsOf node p := by
  rw [controlSuccessors_some, Graph.toList_edgesFrom, List.filter_filter, List.filter_filter]
  unfold endsOf
  dsimp only
  congr 1
  refine List.filter_congr fun e _ => ?_
  by_cases hp : e.source.port = p
  · have control : w.isControl node e := isControl_iff.mpr (hp ▸ h)
    simp [hp, control]
  · simp [hp]

theorem controlSuccessors_of_not_leadsOn {p : Nat} (h : ¬ w.LeadsOn node p) :
    w.controlSuccessors node (some p) = [] := by
  rw [controlSuccessors_some, List.filter_filter, List.filter_eq_nil_iff.mpr, List.filterMap_nil]
  intro e _ he
  obtain ⟨hp, control⟩ := Bool.and_eq_true_iff.mp he
  exact h (of_decide_eq_true hp ▸ isControl_iff.mp control)

/-- Along which edges control leaves a node, output by output. -/
structure LeavesByOutput (w : Workspace) (node : Node) : Prop where
  ascending : (w.outputsInUse node).Pairwise (· < ·)
  in_use {port : Nat} : port ∈ w.outputsInUse node ↔
    ∃ e ∈ w.graph.edges.toList, e.source.node = node.id ∧ e.source.port = port
  all : w.controlSuccessors node none =
    (w.outputsInUse node).flatMap fun port => w.controlSuccessors node (some port)
  unknown {port : Nat} (h : w.registry.contains node.kind = false) :
    w.controlSuccessors node (some port) = w.endsOf node port
  control {port : Nat} {ports : Ports} (hp : w.registry.portsOf? node = some ports)
    (hc : ports.outputKind? port = some .control) :
    w.controlSuccessors node (some port) = w.endsOf node port
  other {port : Nat} {ports : Ports} (hp : w.registry.portsOf? node = some ports)
    (hc : ports.outputKind? port ≠ some .control) : w.controlSuccessors node (some port) = []

/-- Control leaves a node along all its outputs as it does along each, and along an output for
control, or along any if the kind of the node is unknown, to the targets of all edges there. -/
theorem leavesByOutput (w : Workspace) (node : Node) : w.LeavesByOutput node where
  ascending := sorted_outputsInUse w node
  in_use := mem_outputsInUse
  all := controlSuccessors_none w node
  unknown h := by
    refine controlSuccessors_of_leadsOn fun ports hp => ?_
    obtain ⟨d, hd, -⟩ := Option.map_eq_some_iff.mp hp
    have unknown : (w.registry.get? node.kind).isSome = false := h
    simp [hd] at unknown
  control hp hc := controlSuccessors_of_leadsOn fun ports hp' => by
    rwa [← Option.some.inj (hp.symm.trans hp')]
  other hp hc := controlSuccessors_of_not_leadsOn fun h => hc (h _ hp)

end ScriptGraph.Workspace
