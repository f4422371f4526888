import ScriptGraph.Graph.Issue
import ScriptGraph.Proofs.Graph.Lookup

/-! # What issues tell

How often an issue is listed can be counted in the lists of nodes and edges: for each id as often as
it is declared again, for each edge once for everything that is wrong with it, and last, in the
order of ports, for each input port with several producers. Nothing is listed exactly if nothing is
wrong.
-/

namespace ScriptGraph

namespace PortRef

/-- The port comes first in the order by node id and port. -/
def Before (a b : PortRef) : Prop :=
  a.node.text < b.node.text ∨ a.node = b.node ∧ a.port < b.port

theorem before_of_compare {a b : PortRef} (h : compare a b = .lt) : a.Before b := by
  change (compareOn node a b).then (compareOn port a b) = .lt at h
  rcases Ordering.then_eq_lt.mp h with hn | ⟨hn, hp⟩
  · left
    exact compareOfLessAndEq_eq_lt.mp hn
  · right
    exact ⟨Std.LawfulEqOrd.eq_of_compare hn, Nat.compare_eq_lt.mp hp⟩

end PortRef

/-- Where an issue is found. -/
inductive Issue.Subject where
  | node
  | edge
  | port
  deriving DecidableEq

def Issue.subject : Issue → Issue.Subject
  | .duplicateNode _ | .unknownKind .. => .node
  | .selfLoop _ | .connection .. | .missingNode .. => .edge
  | .duplicateProducer .. => .port

namespace Graph

variable (g : Graph)

/-- How many nodes are declared with an id. -/
def declarations (id : NodeId) : Nat :=
  g.nodes.toList.countP (·.id = id)

/-- How many edges end at an input port. -/
def fanIn (target : PortRef) : Nat :=
  g.edges.toList.countP (·.target.ref = target)

variable {g}

theorem findNode_eq_none_iff {id : NodeId} : g.findNode id = none ↔ g.declarations id = 0 := by
  rw [findNode_eq_find?, List.find?_eq_none, declarations, List.countP_eq_zero]

end Graph

/-- The ports of an edge are there and of one kind. -/
def Ports.Join (outputs inputs : Ports) (e : Edge) : Prop :=
  ∃ kind, outputs.outputKind? e.source.port = some kind ∧
    inputs.inputKind? e.target.port = some kind

namespace Workspace

/-- The ports of the node with an id, if there is such a node and its kind is known. -/
def portsAt? (w : Workspace) (id : NodeId) : Option Ports :=
  (w.graph.findNode id).bind w.registry.portsOf?

/-- What is wrong with an edge: it does not run from an output to an input, or it connects nodes of
known kinds that do not have its ports, or by ports of different kinds. -/
inductive Faulty (w : Workspace) (e : Edge) : ConnectionFault → Prop where
  | direction : e.source.isInput ∨ ¬ e.target.isInput → w.Faulty e .direction
  | noOutput {outputs inputs : Ports} : w.portsAt? e.source.node = some outputs →
      w.portsAt? e.target.node = some inputs → outputs.outputKind? e.source.port = none →
      w.Faulty e (.noOutput e.source.node e.source.port)
  | noInput {outputs inputs : Ports} {output : PortKind} :
      w.portsAt? e.source.node = some outputs → w.portsAt? e.target.node = some inputs →
      outputs.outputKind? e.source.port = some output → inputs.inputKind? e.target.port = none →
      w.Faulty e (.noInput e.target.port)
  | kinds {outputs inputs : Ports} {output input : PortKind} :
      w.portsAt? e.source.node = some outputs → w.portsAt? e.target.node = some inputs →
      outputs.outputKind? e.source.port = some output →
      inputs.inputKind? e.target.port = some input → output ≠ input →
      w.Faulty e (.kinds output input)

variable {w : Workspace} {e : Edge} {fault : ConnectionFault}

/-! ### Edges -/

/-- What is wrong with the ports of an edge. -/
def misfit? (w : Workspace) (e : Edge) : Option ConnectionFault := do
  w.portFault? (← w.graph.findNode e.source.node) (← w.graph.findNode e.target.node) e

theorem portsAt?_eq_some_iff {id : NodeId} {ports : Ports} :
    w.portsAt? id = some ports ↔
      ∃ v, w.graph.findNode id = some v ∧ w.registry.portsOf? v = some ports :=
  Option.bind_eq_some_iff

theorem misfit?_eq_some_iff :
    w.misfit? e = some fault ↔ fault ≠ .direction ∧ w.Faulty e fault := by
  constructor
  · intro h
    obtain ⟨source, hs, target, ht, outputs, ho, inputs, hi, h⟩ :
        ∃ source, w.graph.findNode e.source.node = some source ∧
          ∃ target, w.graph.findNode e.target.node = some target ∧
            ∃ outputs, w.registry.portsOf? source = some outputs ∧
              ∃ inputs, w.registry.portsOf? target = some inputs ∧ _ := by
      simpa only [misfit?, portFault?, Option.bind_eq_bind, Option.bind_eq_some_iff] using h
    have outputs_at := portsAt?_eq_some_iff.mpr ⟨source, hs, ho⟩
    have inputs_at := portsAt?_eq_some_iff.mpr ⟨target, ht, hi⟩
    split at h
    next hn =>
      obtain rfl := Option.some.inj h
      rw [(Graph.mem_of_findNode hs).2]
      exact ⟨nofun, .noOutput outputs_at inputs_at hn⟩
    next hs hn =>
      obtain rfl := Option.some.inj h
      exact ⟨nofun, .noInput outputs_at inputs_at hs hn⟩
    next hs hn =>
      rw [Option.ite_none_left_eq_some] at h
      obtain ⟨hne, h⟩ := h
      obtain rfl := Option.some.inj h
      exact ⟨nofun, .kinds outputs_at inputs_at hs hn hne⟩
  · rintro ⟨hd, h⟩
    have ends {outputs inputs : Ports} (ho : w.portsAt? e.source.node = some outputs)
        (hi : w.portsAt? e.target.node = some inputs) :
        ∃ source target, source.id = e.source.node ∧ w.misfit? e = w.portFault? source target e ∧
          w.registry.portsOf? source = some outputs ∧ w.registry.portsOf? target = some inputs := by
      obtain ⟨source, hs, ho⟩ := portsAt?_eq_some_iff.mp ho
      obtain ⟨target, ht, hi⟩ := portsAt?_eq_some_iff.mp hi
      refine ⟨source, target, (Graph.mem_of_findNode hs).2, ?_, ho, hi⟩
      simp [misfit?, hs, ht]
    cases h with
    | direction => exact absurd rfl hd
    | noOutput ho hi hn =>
      obtain ⟨source, target, hid, he, ho, hi⟩ := ends ho hi
      simp [he, portFault?, ho, hi, hn, hid]
    | noInput ho hi hs hn =>
      obtain ⟨source, target, -, he, ho, hi⟩ := ends ho hi
      simp [he, portFault?, ho, hi, hs, hn]
    | kinds ho hi hs hn hne =>
      obtain ⟨source, target, -, he, ho, hi⟩ := ends ho hi
      simp [he, portFault?, ho, hi, hs, hn, hne]

theorem faulty_direction_iff :
    w.Faulty e .direction ↔ e.source.isInput ∨ ¬ e.target.isInput := by
  constructor
  · rintro ⟨h⟩
    exact h
  · exact .direction

instance : Decidable (w.Faulty e fault) :=
  decidable_of_iff (if fault = .direction then e.source.isInput ∨ ¬ e.target.isInput
    else w.misfit? e = some fault) <| by
  split
  next h =>
    subst h
    exact faulty_direction_iff.symm
  next h => simp [misfit?_eq_some_iff, h]

theorem edgeIssues_eq (w : Workspace) (e : Edge) : w.edgeIssues e =
    (if e.isSelfLoop then [.selfLoop e.target.node] else []) ++
    (if e.source.isInput || !e.target.isInput then [.connection e.target.ref .direction] else []) ++
    (if (w.graph.findNode e.source.node).isNone then [.missingNode e.source.node e.target.node]
      else []) ++
    (if (w.graph.findNode e.target.node).isNone then [.missingNode e.target.node e.source.node]
      else []) ++
    ((w.misfit? e).map (Issue.connection e.target.ref)).toList := by
  unfold edgeIssues misfit?
  cases w.graph.findNode e.source.node <;> cases w.graph.findNode e.target.node <;> rfl

theorem count_listed (c : Prop) [Decidable c] (i j : Issue) :
    (if c then [i] else []).count j = if c ∧ i = j then 1 else 0 := by
  by_cases c <;> by_cases i = j <;> simp [*]

theorem count_toList (i? : Option Issue) (i : Issue) :
    i?.toList.count i = if i? = some i then 1 else 0 := by
  cases i? with
  | none => rfl
  | some j => by_cases j = i <;> simp [*]

theorem count_edgeIssues_selfLoop (id : NodeId) : (w.edgeIssues e).count (.selfLoop id) =
    if e.source.node = id ∧ e.target.node = id then 1 else 0 := by
  simp only [edgeIssues_eq, List.count_append, count_listed, count_toList]
  by_cases h : e.target.node = id
  · subst h
    simp [Edge.isSelfLoop]
  · simp [h]

theorem count_edgeIssues_connection (target : PortRef) :
    (w.edgeIssues e).count (.connection target fault) =
      if e.target.ref = target ∧ w.Faulty e fault then 1 else 0 := by
  simp only [edgeIssues_eq, List.count_append, count_listed, count_toList]
  by_cases ht : e.target.ref = target
  · subst ht
    by_cases hd : fault = .direction
    · subst hd
      simp [misfit?_eq_some_iff, faulty_direction_iff]
    · simp [misfit?_eq_some_iff, hd, Ne.symm hd]
  · simp [ht]

theorem count_edgeIssues_missingNode (missing requiredBy : NodeId) :
    (w.edgeIssues e).count (.missingNode missing requiredBy) =
      (if w.graph.declarations e.source.node = 0 ∧
        e.source.node = missing ∧ e.target.node = requiredBy then 1 else 0) +
      (if w.graph.declarations e.target.node = 0 ∧
        e.target.node = missing ∧ e.source.node = requiredBy then 1 else 0) := by
  simp [edgeIssues_eq, List.count_append, count_listed, count_toList, Graph.findNode_eq_none_iff]

/-! ### Nodes -/

theorem count_nodeIssues_cons (seen : List NodeId) (v : Node) (nodes : List Node) (i : Issue) :
    (w.nodeIssues seen (v :: nodes)).count i =
      (if v.id ∈ seen ∧ Issue.duplicateNode v.id = i then 1 else 0) +
      (if ¬ w.registry.contains v.kind ∧ Issue.unknownKind v.id v.kind = i then 1 else 0) +
      (w.nodeIssues (v.id :: seen) nodes).count i := by
  simp only [nodeIssues, List.count_append, ← count_listed, ite_not, List.contains_iff_mem]

theorem count_nodeIssues_duplicateNode (seen : List NodeId) (nodes : List Node) (id : NodeId) :
    (w.nodeIssues seen nodes).count (.duplicateNode id) =
      nodes.countP (·.id = id) - if id ∈ seen then 0 else 1 := by
  induction nodes generalizing seen with
  | nil => simp [nodeIssues]
  | cons v nodes ih =>
    rw [count_nodeIssues_cons, ih, List.countP_cons]
    by_cases hv : v.id = id
    · subst hv
      by_cases hs : v.id ∈ seen <;> simp [hs, Nat.add_comm]
    · simp [hv, Ne.symm hv]

theorem count_nodeIssues_unknownKind (seen : List NodeId) (nodes : List Node) (id : NodeId)
    (kind : String) : (w.nodeIssues seen nodes).count (.unknownKind id kind) =
      if w.registry.contains kind then 0 else nodes.countP fun v => v.id = id ∧ v.kind = kind := by
  induction nodes generalizing seen with
  | nil => simp [nodeIssues]
  | cons v nodes ih =>
    rw [count_nodeIssues_cons, ih, List.countP_cons]
    by_cases hk : v.kind = kind
    · subst hk
      cases w.registry.contains v.kind <;> simp [Nat.add_comm]
    · simp [hk]

/-! ### Input ports -/

theorem getD_producerCounts (edges : List Edge) (target : PortRef) :
    (producerCounts edges)[target]?.getD 0 = edges.countP (·.target.ref = target) := by
  let count (counts : Std.TreeMap PortRef Nat) (edge : Edge) :=
    counts.alter edge.target.ref fun count? => some (count?.getD 0 + 1)
  -- The induction is on the edges still to be counted, whatever has been counted already.
  have counted (counts : Std.TreeMap PortRef Nat) : (edges.foldl count counts)[target]?.getD 0 =
      counts[target]?.getD 0 + edges.countP (·.target.ref = target) := by
    induction edges generalizing counts with
    | nil => simp
    | cons e edges ih =>
      rw [List.foldl_cons, ih, Std.TreeMap.getElem?_alter, List.countP_cons]
      by_cases h : e.target.ref = target
      · subst h
        simp
        omega
      · simp [h]
  rw [producerCounts, counted]
  simp

/-- The input ports with several producers in their order. -/
theorem producerIssues_eq (edges : List Edge) : ∃ targets : List PortRef,
    producerIssues edges =
      targets.map (fun target => .duplicateProducer target (edges.countP (·.target.ref = target))) ∧
    targets.Pairwise PortRef.Before ∧
    ∀ target, target ∈ targets ↔ 1 < edges.countP (·.target.ref = target) := by
  let entries := (producerCounts edges).toList.filter (1 < ·.2)
  have count {entry : PortRef × Nat} (h : entry ∈ (producerCounts edges).toList) :
      edges.countP (·.target.ref = entry.1) = entry.2 := by
    rw [← getD_producerCounts, Std.TreeMap.mem_toList_iff_getElem?_eq_some.mp h]
    rfl
  refine ⟨entries.map (·.1), ?_, ?_, fun target => ?_⟩
  · rw [producerIssues, List.map_map, ← List.filterMap_eq_map, List.filterMap_filter]
    refine List.filterMap_congr fun entry h => ?_
    by_cases hc : 1 < entry.2 <;> simp [hc, count h]
  · rw [List.pairwise_map]
    exact (Std.TreeMap.ordered_keys_toList.imp PortRef.before_of_compare).filter _
  · constructor
    · intro h
      obtain ⟨entry, he, rfl⟩ := List.mem_map.mp h
      obtain ⟨he, hc⟩ := List.mem_filter.mp he
      rw [count he]
      exact of_decide_eq_true hc
    · intro h
      have hc := getD_producerCounts edges target
      cases hf : (producerCounts edges)[target]? with
      | none =>
        rw [hf, Option.getD_none] at hc
        omega
      | some c =>
        rw [hf, Option.getD_some] at hc
        refine List.mem_map.mpr ⟨(target, c), List.mem_filter.mpr ⟨?_, ?_⟩, rfl⟩
        · exact Std.TreeMap.mem_toList_iff_getElem?_eq_some.mpr hf
        · exact decide_eq_true (hc ▸ h)

/-! ### All issues -/

/-- A list of issues that tells every problem as often as there is reason to, with those of input
ports last. -/
structure Exact (w : Workspace) (issues : List Issue) : Prop where
  duplicateNode (id : NodeId) : issues.count (.duplicateNode id) = w.graph.declarations id - 1
  unknownKind (id : NodeId) (kind : String) : issues.count (.unknownKind id kind) =
    if w.registry.contains kind then 0
    else w.graph.nodes.toList.countP fun v => v.id = id ∧ v.kind = kind
  selfLoop (id : NodeId) : issues.count (.selfLoop id) =
    w.graph.edges.toList.countP fun e => e.source.node = id ∧ e.target.node = id
  connection (target : PortRef) (fault : ConnectionFault) :
    issues.count (.connection target fault) =
      w.graph.edges.toList.countP fun e => e.target.ref = target ∧ w.Faulty e fault
  missingNode (missing requiredBy : NodeId) : issues.count (.missingNode missing requiredBy) =
    (w.graph.edges.toList.countP fun e => w.graph.declarations e.source.node = 0 ∧
      e.source.node = missing ∧ e.target.node = requiredBy) +
    (w.graph.edges.toList.countP fun e => w.graph.declarations e.target.node = 0 ∧
      e.target.node = missing ∧ e.source.node = requiredBy)
  last : ∃ (first : List Issue) (targets : List PortRef),
    issues = first ++ targets.map (fun target => .duplicateProducer target (w.graph.fanIn target)) ∧
    (∀ target count, .duplicateProducer target count ∉ first) ∧
    targets.Pairwise PortRef.Before ∧ ∀ target, target ∈ targets ↔ 1 < w.graph.fanIn target

/-- A graph without structural problems. -/
structure Sound (w : Workspace) : Prop where
  declared (id : NodeId) : w.graph.declarations id ≤ 1
  known : ∀ v ∈ w.graph.nodes.toList, w.registry.contains v.kind
  loopless : ∀ e ∈ w.graph.edges.toList, e.source.node ≠ e.target.node
  directed : ∀ e ∈ w.graph.edges.toList, ¬ e.source.isInput ∧ e.target.isInput
  ends : ∀ e ∈ w.graph.edges.toList,
    w.graph.declarations e.source.node ≠ 0 ∧ w.graph.declarations e.target.node ≠ 0
  fits : ∀ e ∈ w.graph.edges.toList, ∀ outputs inputs,
    w.portsAt? e.source.node = some outputs → w.portsAt? e.target.node = some inputs →
    outputs.Join inputs e
  single (target : PortRef) : w.graph.fanIn target ≤ 1

theorem subject_of_mem_nodeIssues {seen : List NodeId} {nodes : List Node} {i : Issue}
    (h : i ∈ w.nodeIssues seen nodes) : i.subject = .node := by
  induction nodes generalizing seen with
  | nil => simp [nodeIssues] at h
  | cons v nodes ih =>
    simp only [nodeIssues, List.mem_append] at h
    rcases h with (h | h) | h
    · split at h <;> simp_all [Issue.subject]
    · split at h <;> simp_all [Issue.subject]
    · exact ih h

theorem subject_of_mem_edgeIssues {i : Issue} (h : i ∈ w.edgeIssues e) : i.subject = .edge := by
  simp only [edgeIssues_eq, List.mem_append, Option.mem_toList,
    Option.map_eq_some_iff] at h
  rcases h with (((h | h) | h) | h) | ⟨fault, -, rfl⟩
  case inr => rfl
  all_goals
    split at h
    · rw [List.mem_singleton.mp h]
      rfl
    · cases h

theorem subject_of_mem_flatMap_edgeIssues {edges : List Edge} {i : Issue}
    (h : i ∈ edges.flatMap w.edgeIssues) : i.subject = .edge := by
  obtain ⟨e, -, he⟩ := List.mem_flatMap.mp h
  exact subject_of_mem_edgeIssues he

theorem subject_of_mem_producerIssues {edges : List Edge} {i : Issue}
    (h : i ∈ producerIssues edges) : i.subject = .port := by
  obtain ⟨targets, he, -⟩ := producerIssues_eq edges
  rw [he, List.mem_map] at h
  obtain ⟨target, -, rfl⟩ := h
  rfl

theorem count_issues_of_node {i : Issue} (h : i.subject = .node) :
    w.issues.count i = (w.nodeIssues [] w.graph.nodes.toList).count i := by
  have edges : (w.graph.edges.toList.flatMap w.edgeIssues).count i = 0 :=
    List.count_eq_zero.mpr fun hi => nomatch h.symm.trans (subject_of_mem_flatMap_edgeIssues hi)
  have ports : (producerIssues w.graph.edges.toList).count i = 0 :=
    List.count_eq_zero.mpr fun hi => nomatch h.symm.trans (subject_of_mem_producerIssues hi)
  rw [issues, List.count_append, List.count_append, edges, ports]
  rfl

theorem count_issues_of_edge {i : Issue} (h : i.subject = .edge) :
    w.issues.count i = (w.graph.edges.toList.flatMap w.edgeIssues).count i := by
  have nodes : (w.nodeIssues [] w.graph.nodes.toList).count i = 0 :=
    List.count_eq_zero.mpr fun hi => nomatch h.symm.trans (subject_of_mem_nodeIssues hi)
  have ports : (producerIssues w.graph.edges.toList).count i = 0 :=
    List.count_eq_zero.mpr fun hi => nomatch h.symm.trans (subject_of_mem_producerIssues hi)
  rw [issues, List.count_append, List.count_append, nodes, ports]
  simp

theorem count_flatMap_edgeIssues {edges : List Edge} {i : Issue} {p q : Edge → Prop}
    [DecidablePred p] [DecidablePred q]
    (h : ∀ e, (w.edgeIssues e).count i = (if p e then 1 else 0) + (if q e then 1 else 0)) :
    (edges.flatMap w.edgeIssues).count i = edges.countP (p ·) + edges.countP (q ·) := by
  induction edges with
  | nil => rfl
  | cons e edges ih =>
    simp only [List.flatMap_cons, List.count_append, h, ih, List.countP_cons, decide_eq_true_eq]
    omega

theorem count_issues_edge {i : Issue} (hi : i.subject = .edge) {p : Edge → Prop} [DecidablePred p]
    (h : ∀ e, (w.edgeIssues e).count i = if p e then 1 else 0) :
    w.issues.count i = w.graph.edges.toList.countP (p ·) := by
  rw [count_issues_of_edge hi, count_flatMap_edgeIssues (p := p) (q := fun _ => False)]
  · simp
  · simpa using h

theorem exact_issues (w : Workspace) : w.Exact w.issues where
  duplicateNode id := by
    rw [count_issues_of_node rfl, count_nodeIssues_duplicateNode]
    rfl
  unknownKind id kind := by
    rw [count_issues_of_node rfl, count_nodeIssues_unknownKind]
  selfLoop id := count_issues_edge rfl fun e => count_edgeIssues_selfLoop id
  connection target fault := count_issues_edge rfl fun e => count_edgeIssues_connection target
  missingNode missing requiredBy := by
    rw [count_issues_of_edge rfl]
    exact count_flatMap_edgeIssues fun e => count_edgeIssues_missingNode missing requiredBy
  last := by
    obtain ⟨targets, he, hs, hm⟩ := producerIssues_eq w.graph.edges.toList
    refine ⟨_, targets, congrArg (_ ++ ·) he, fun target count h => ?_, hs, hm⟩
    rcases List.mem_append.mp h with h | h
    · cases subject_of_mem_nodeIssues h
    · cases subject_of_mem_flatMap_edgeIssues h

theorem Faulty.unique {fault' : ConnectionFault} (h : w.Faulty e fault) (hd : fault ≠ .direction)
    (h' : w.Faulty e fault') (hd' : fault' ≠ .direction) : fault = fault' :=
  Option.some.inj <|
    (misfit?_eq_some_iff.mpr ⟨hd, h⟩).symm.trans (misfit?_eq_some_iff.mpr ⟨hd', h'⟩)

/-- Between nodes of known kinds an edge is faulty whatever its direction, unless its ports are
there and of one kind. -/
theorem exists_fault_iff : (∃ fault, fault ≠ .direction ∧ w.Faulty e fault) ↔
    ∃ outputs inputs, w.portsAt? e.source.node = some outputs ∧
      w.portsAt? e.target.node = some inputs ∧ ¬ outputs.Join inputs e := by
  constructor
  · rintro ⟨fault, hd, h⟩
    cases h with
    | direction => exact absurd rfl hd
    | noOutput ho hi hn =>
      refine ⟨_, _, ho, hi, ?_⟩
      rintro ⟨kind, hs, -⟩
      cases hn.symm.trans hs
    | noInput ho hi hs hn =>
      refine ⟨_, _, ho, hi, ?_⟩
      rintro ⟨kind, -, hs⟩
      cases hn.symm.trans hs
    | kinds ho hi hs hs' hne =>
      refine ⟨_, _, ho, hi, ?_⟩
      rintro ⟨kind, hk, hk'⟩
      rw [hs] at hk
      rw [hs'] at hk'
      exact hne (Option.some.inj (hk.trans hk'.symm))
  · rintro ⟨outputs, inputs, ho, hi, hj⟩
    cases hs : outputs.outputKind? e.source.port with
    | none => exact ⟨.noOutput .., nofun, .noOutput ho hi hs⟩
    | some output =>
      cases hs' : inputs.inputKind? e.target.port with
      | none => exact ⟨.noInput .., nofun, .noInput ho hi hs hs'⟩
      | some input =>
        refine ⟨.kinds .., nofun, .kinds ho hi hs hs' ?_⟩
        rintro rfl
        exact hj ⟨output, hs, hs'⟩

theorem faultless_iff : (∀ fault, ¬ w.Faulty e fault) ↔
    (¬ e.source.isInput ∧ e.target.isInput) ∧ ∀ outputs inputs,
      w.portsAt? e.source.node = some outputs → w.portsAt? e.target.node = some inputs →
      outputs.Join inputs e := by
  constructor
  · intro h
    constructor
    · simpa [faulty_direction_iff] using h .direction
    · intro outputs inputs ho hi
      by_contra hj
      obtain ⟨fault, -, hf⟩ := exists_fault_iff.mpr ⟨outputs, inputs, ho, hi, hj⟩
      exact h fault hf
  · rintro ⟨⟨hs, ht⟩, hj⟩ fault hf
    by_cases hd : fault = .direction
    · subst hd
      rcases faulty_direction_iff.mp hf with hi | hi
      · exact hs hi
      · exact hi ht
    · obtain ⟨outputs, inputs, ho, hi, hn⟩ := exists_fault_iff.mp ⟨fault, hd, hf⟩
      exact hn (hj outputs inputs ho hi)

/-- If nothing is listed, nothing is wrong. -/
theorem Exact.sound (h : w.Exact []) : w.Sound := by
  have faultless (e : Edge) (he : e ∈ w.graph.edges.toList) := faultless_iff.mp fun fault hf =>
    List.countP_eq_zero.mp (h.connection e.target.ref fault).symm e he (by simpa using hf)
  have named (missing requiredBy : NodeId) :=
    Nat.add_eq_zero_iff.mp (h.missingNode missing requiredBy).symm
  constructor
  case declared => exact fun id => Nat.sub_eq_zero_iff_le.mp (h.duplicateNode id).symm
  case known =>
    intro v hv
    by_contra hk
    have := h.unknownKind v.id v.kind
    rw [if_neg hk] at this
    exact List.countP_eq_zero.mp this.symm v hv (by simp)
  case loopless =>
    intro e he hl
    exact List.countP_eq_zero.mp (h.selfLoop e.target.node).symm e he (by simpa using hl)
  case directed => exact fun e he => (faultless e he).1
  case ends =>
    intro e he
    constructor <;> intro h₀
    · exact List.countP_eq_zero.mp (named e.source.node e.target.node).1 e he
        (decide_eq_true ⟨h₀, rfl, rfl⟩)
    · exact List.countP_eq_zero.mp (named e.target.node e.source.node).2 e he
        (decide_eq_true ⟨h₀, rfl, rfl⟩)
  case fits => exact fun e he => (faultless e he).2
  case single =>
    intro target
    obtain ⟨first, targets, hn, -, -, hm⟩ := h.last
    obtain ⟨-, ht⟩ := List.append_eq_nil_iff.mp hn.symm
    rw [List.map_eq_nil_iff.mp ht] at hm
    exact Nat.le_of_not_lt fun hl => List.not_mem_nil ((hm target).mpr hl)

/-- If nothing is wrong, nothing is listed. -/
theorem Sound.eq_nil (hw : w.Sound) {issues : List Issue} (h : w.Exact issues) : issues = [] := by
  refine List.eq_nil_iff_forall_not_mem.mpr fun i hi => ?_
  have hc := List.count_pos_iff.mpr hi
  cases i with
  | duplicateNode id =>
    rw [h.duplicateNode] at hc
    have := hw.declared id
    omega
  | unknownKind id kind =>
    rw [h.unknownKind] at hc
    split at hc
    next => cases hc
    next unknown =>
      obtain ⟨v, hv, hk⟩ := List.countP_pos_iff.mp hc
      obtain ⟨-, rfl⟩ := of_decide_eq_true hk
      exact unknown (hw.known v hv)
  | selfLoop id =>
    rw [h.selfLoop] at hc
    obtain ⟨e, he, hl⟩ := List.countP_pos_iff.mp hc
    obtain ⟨hs, ht⟩ := of_decide_eq_true hl
    exact hw.loopless e he (hs.trans ht.symm)
  | connection target fault =>
    rw [h.connection] at hc
    obtain ⟨e, he, hl⟩ := List.countP_pos_iff.mp hc
    exact faultless_iff.mpr ⟨hw.directed e he, hw.fits e he⟩ fault (of_decide_eq_true hl).2
  | missingNode missing requiredBy =>
    rw [h.missingNode, Nat.add_pos_iff_pos_or_pos] at hc
    rcases hc with hc | hc
    · obtain ⟨e, he, hl⟩ := List.countP_pos_iff.mp hc
      exact (hw.ends e he).1 (of_decide_eq_true hl).1
    · obtain ⟨e, he, hl⟩ := List.countP_pos_iff.mp hc
      exact (hw.ends e he).2 (of_decide_eq_true hl).1
  | duplicateProducer target count =>
    obtain ⟨first, targets, rfl, hf, -, hm⟩ := h.last
    rcases List.mem_append.mp hi with hi | hi
    · exact hf target count hi
    · obtain ⟨t, ht, -⟩ := List.mem_map.mp hi
      exact Nat.not_le_of_lt ((hm t).mp ht) (hw.single t)

theorem issues_eq_nil_iff : w.issues = [] ↔ w.Sound := by
  constructor
  · intro h
    exact (h ▸ w.exact_issues : w.Exact []).sound
  · intro hw
    exact hw.eq_nil w.exact_issues

/-- Every problem is listed as often as there is reason to, and an edge between nodes of known kinds
has one problem with its ports or none. -/
theorem issues_exact (w : Workspace) :
    w.Exact w.issues ∧ (w.issues = [] ↔ w.Sound) ∧
    ∀ e, (∃! fault, fault ≠ .direction ∧ w.Faulty e fault) ↔
      ∃ outputs inputs, w.portsAt? e.source.node = some outputs ∧
        w.portsAt? e.target.node = some inputs ∧ ¬ outputs.Join inputs e := by
  refine ⟨w.exact_issues, issues_eq_nil_iff, fun e => exists_fault_iff.symm.trans ?_ |>.symm⟩
  constructor
  · rintro ⟨fault, hd, hf⟩
    exact ⟨fault, ⟨hd, hf⟩, fun _ ⟨hd', hf'⟩ => hf'.unique hd' hf hd⟩
  · exact ExistsUnique.exists

end Workspace

end ScriptGraph
