import ScriptGraph.Proofs.Graph.Lookup
import ScriptGraph.Proofs.Script.Reached

/-! # Failures and executions

Each failure that a run reports is that of an execution, and no execution reports more than one. So
at no moment has a run reported more failures of a node than it has begun executions of it.
-/

namespace ScriptGraph.Script

variable {s : Setting} {v : Node} {ports : List Nat} {pending : List Node} {m : Machine}

namespace Run

theorem diagnostics_append (es es' : List Event) :
    (Run.mk (es ++ es')).diagnostics = (Run.mk es).diagnostics ++ (Run.mk es').diagnostics :=
  List.filterMap_append

theorem diagnosticsFor_append (es es' : List Event) (id : NodeId) :
    (Run.mk (es ++ es')).diagnosticsFor id =
      (Run.mk es).diagnosticsFor id ++ (Run.mk es').diagnosticsFor id := by
  rw [diagnosticsFor, diagnostics_append, List.filter_append]
  rfl

theorem visitCount_append (es es' : List Event) (id : NodeId) :
    (Run.mk (es ++ es')).visitCount id =
      (Run.mk es).visitCount id + (Run.mk es').visitCount id := by
  rw [visitCount, visited, List.filterMap_append, List.count_append]
  rfl

theorem length_diagnosticsFor_failure (d : Diagnostic) (id : NodeId) :
    ((Run.mk [.failure d]).diagnosticsFor id).length = [d.node].count id := by
  by_cases h : d.node = id <;> simp [diagnosticsFor, diagnostics, h]

end Run

/-- What an executor does without reporting a failure adds none. -/
theorem Event.IsOwn.diagnostics_eq_nil {es : List Event} (h : ∀ e ∈ es, e.IsOwn v ports false) :
    (Run.mk es).diagnostics = [] := by
  refine List.filterMap_eq_nil_iff.mpr fun e he => ?_
  cases h e he with
  | quiet hq => cases e <;> first | rfl | cases hq
  | bind | record => rfl
  | report _ hr => cases hr

theorem Effect.diagnostics_eq {m' : Machine} (h : Effect s v m m') :
    (Run.mk m'.log.toList).diagnostics = (Run.mk m.log.toList).diagnostics := by
  obtain ⟨_, h⟩ := h.operation
  obtain ⟨es, he, own⟩ := h.log_eq
  rw [he, Run.diagnostics_append, Event.IsOwn.diagnostics_eq_nil own, List.append_nil]

theorem Effect.visited_eq {m' : Machine} (h : Effect s v m m') :
    (Run.mk m'.log.toList).visited = (Run.mk m.log.toList).visited := by
  obtain ⟨ports, h⟩ := h.operation
  exact Own.executed_eq (.single (h.mono (List.Subset.refl ports)))

theorem count_pending (v : Node) (pending : List Node) (id : NodeId) :
    ((v :: pending).map (·.id)).count id = [v.id].count id + (pending.map (·.id)).count id := by
  rw [List.map_cons, ← List.singleton_append, List.count_append]

/-- Of the executions of a node that have begun, those that are pending have not reported a failure,
and the others have reported one at most. -/
theorem Reached.length_diagnosticsFor_le (h : Reached s pending m) (id : NodeId) :
    ((Run.mk m.log.toList).diagnosticsFor id).length + (pending.map (·.id)).count id ≤
      (Run.mk m.log.toList).visitCount id := by
  induction h with
  | start => exact Nat.le_refl 0
  | @enter pending m v _ _ ih =>
    have log : (began v m).log.toList = m.log.toList ++ [.node v.id] := m.log_logged _
    have begun : (Run.mk [.node v.id]).visitCount id = [v.id].count id := rfl
    have silent : (Run.mk [.node v.id]).diagnosticsFor id = [] := rfl
    rw [log, Run.diagnosticsFor_append, Run.visitCount_append, begun, silent, List.append_nil,
      count_pending]
    omega
  | effect _ step ih =>
    rw [Run.diagnosticsFor, step.diagnostics_eq, Run.visitCount, step.visited_eq]
    exact ih
  | @report pending m v fault _ ih =>
    have silent : (Run.mk [.failure ⟨v.id, v.kind, fault⟩]).visitCount id = 0 := rfl
    have failed : ((Run.mk [.failure ⟨v.id, v.kind, fault⟩]).diagnosticsFor id).length =
        [v.id].count id := Run.length_diagnosticsFor_failure _ id
    rw [count_pending] at ih
    rw [Machine.log_logged, Run.diagnosticsFor_append, Run.visitCount_append, silent,
      List.length_append, failed]
    omega
  | settle _ ih =>
    rw [count_pending] at ih
    omega
  | iterate body _ ih =>
    rw [Machine.log_logged, Run.diagnosticsFor_append, Run.visitCount_append]
    simpa [Run.diagnosticsFor, Run.diagnostics, Run.visitCount, Run.visited] using ih
  | leave _ _ ih => exact ih

theorem Reached.kind_of_diagnostic (h : Reached s pending m) :
    ∀ d ∈ (Run.mk m.log.toList).diagnostics,
      ∃ v ∈ s.graph.nodes.toList, v.id = d.node ∧ v.kind = d.kind := by
  induction h with
  | start => exact nofun
  | @enter _ m v _ _ ih =>
    have log : (began v m).log.toList = m.log.toList ++ [.node v.id] := m.log_logged _
    rw [log, Run.diagnostics_append]
    simpa [Run.diagnostics] using ih
  | effect _ step ih =>
    rw [step.diagnostics_eq]
    exact ih
  | @report _ m v fault h ih =>
    rw [Machine.log_logged, Run.diagnostics_append]
    intro d hd
    rcases List.mem_append.mp hd with hd | hd
    · exact ih d hd
    · obtain rfl := List.mem_singleton.mp hd
      exact ⟨v, h.mem_nodes v List.mem_cons_self, rfl, rfl⟩
  | iterate body _ ih =>
    rw [Machine.log_logged, Run.diagnostics_append]
    simpa [Run.diagnostics] using ih
  | settle _ ih | leave _ _ ih => exact ih

/-- A run reports each failure once, against an execution of the node that failed. -/
structure Run.ReportsOnce (r : Run) (graph : Graph) : Prop where
  once (id : NodeId) : (r.diagnosticsFor id).length ≤ r.visitCount id
  /-- No failure is reported before the execution that fails has begun. -/
  inTime {es : List Event} (he : es <+: r.log) (id : NodeId) :
    ((Run.mk es).diagnosticsFor id).length ≤ (Run.mk es).visitCount id
  named : ∀ d ∈ r.diagnostics, ∃ v ∈ graph.nodes.toList, v.id = d.node ∧ v.kind = d.kind
  /-- Where ids are unique, a failure tells the kind of the node that it names. -/
  kind (unique : (graph.nodes.toList.map (·.id)).Nodup) :
    ∀ d ∈ r.diagnostics, ∃ v, graph.findNode d.node = some v ∧ v.kind = d.kind

theorem run_reportsOnce (registry : Registry) (limit : Nat) (exchange : Http.Exchange)
    (draws : Draws) (debug : Bool) (graph : Graph) :
    let i : Interpreter := { registry, maxLoopIterations := limit, exchange, draws, debug }
    (i.run graph).ReportsOnce graph := by
  intro i
  have reached := Interpreter.reached_machine registry limit exchange draws debug graph
  have inTime {es : List Event} (he : es <+: (i.run graph).log) (id : NodeId) :
      ((Run.mk es).diagnosticsFor id).length ≤ (Run.mk es).visitCount id := by
    obtain ⟨pending, m, h, rfl⟩ := reached.before he
    exact Nat.le_of_add_right_le (h.length_diagnosticsFor_le id)
  have named := reached.kind_of_diagnostic
  refine ⟨inTime List.prefix_rfl, inTime, named, fun unique d hd => ?_⟩
  obtain ⟨v, hv, hid, hk⟩ := named d hd
  exact ⟨v, hid ▸ Graph.findNode_of_mem unique hv, hk⟩

end ScriptGraph.Script
