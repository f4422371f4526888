import ScriptGraph.Proofs.Graph.Rearrangement
import ScriptGraph.Proofs.Script.Congruence
import ScriptGraph.Proofs.Source.Reserved

/-! # The order of a document

Nodes and edges may be listed in another order. As long as entry nodes keep their order, and so do
the edges that leave one output and the edges into one input, the generated text stays the same, and
so does all that happens in a run.
-/

namespace ScriptGraph

/-- On a graph with unique ids the order of the document makes no difference to what is generated or
to what happens in a run, as long as the orders are kept that matter. -/
theorem same_of_rearranged (options : Source.Options) (limit : Nat) (exchange : Http.Exchange)
    (draws : Script.Draws) {g g' : Graph} (hids : (g.nodes.toList.map (·.id)).Nodup)
    (h : Graph.Rearranged .builtin g g') :
    (Source.builtin options).generate g = (Source.builtin options).generate g' ∧
      (Script.builtin limit exchange draws).run g =
        (Script.builtin limit exchange draws).run g' := by
  constructor
  · refine Source.Generator.generate_eq_of_thinned (h.thinned hids) ?_ (h.nodes.filter _)
      fun v _ => h.edgeInto_eq v.id 1
    rw [Workspace.requiresAsync_eq_any, Workspace.requiresAsync_eq_any]
    exact h.nodes.any_eq
  · exact Script.Interpreter.run_eq_of_thinned (h.thinned hids)

/-- Edges keep their order at every port if they do at the ports that they have. -/
theorem Graph.filter_eq_of_perm {edges edges' : List Edge} {port : Edge → PortRef}
    (hp : edges.Perm edges')
    (h : ∀ e ∈ edges, edges.filter (port · = port e) = edges'.filter (port · = port e))
    (ref : PortRef) : edges.filter (port · = ref) = edges'.filter (port · = ref) := by
  by_cases hr : ∃ e ∈ edges, port e = ref
  · obtain ⟨e, he, rfl⟩ := hr
    exact h e he
  · have none (e : Edge) (he : e ∈ edges) : port e ≠ ref := fun hport => hr ⟨e, he, hport⟩
    rw [List.filter_eq_nil_iff.mpr fun e he => by simpa using none e he,
      List.filter_eq_nil_iff.mpr fun e he => by simpa using none e (hp.mem_iff.mpr he)]

/-- The nodes of a loop that shows the sum of two variables. -/
def sumNodes : List Node :=
  [{ id := .ofNat 1, kind := Kind.onStart.name }, { id := .ofNat 2, kind := Kind.whileLoop.name },
    { id := .ofNat 3, kind := Kind.mathOperation.name }, { id := .ofNat 4, kind := Kind.log.name },
    { id := .ofNat 5, kind := Kind.var.name
      properties := [("name", .string "x"), ("initialValue", .string "a")] },
    { id := .ofNat 6, kind := Kind.var.name
      properties := [("name", .string "mathResult"), ("initialValue", .string "b")] }]

/-- The edges of the loop, in one order of many. -/
def sumEdges : List Edge :=
  [.between (.ofNat 1) 0 (.ofNat 2) 0, .between (.ofNat 2) 0 (.ofNat 3) 0,
    .between (.ofNat 2) 0 (.ofNat 4) 0, .between (.ofNat 3) 1 (.ofNat 4) 1,
    .between (.ofNat 5) 1 (.ofNat 3) 1, .between (.ofNat 6) 1 (.ofNat 3) 2]

def sumInLoop : Graph :=
  .ofLists sumNodes sumEdges

/-- The same with the nodes in reverse and the edges in another order. -/
def sumInLoopShuffled : Graph :=
  .ofLists sumNodes.reverse
    [.between (.ofNat 6) 1 (.ofNat 3) 2, .between (.ofNat 2) 0 (.ofNat 3) 0,
      .between (.ofNat 5) 1 (.ofNat 3) 1, .between (.ofNat 2) 0 (.ofNat 4) 0,
      .between (.ofNat 1) 0 (.ofNat 2) 0, .between (.ofNat 3) 1 (.ofNat 4) 1]

theorem sumInLoop_rearranged : Graph.Rearranged .builtin sumInLoop sumInLoopShuffled where
  nodes := (List.reverse_perm sumNodes).symm
  entries := rfl
  edges := by decide +kernel
  outputs := Graph.filter_eq_of_perm (by decide +kernel) (by decide +kernel)
  inputs := Graph.filter_eq_of_perm (by decide +kernel) (by decide +kernel)

theorem sumInLoop_same :
    (sumInLoop.nodes.toList.map (·.id)).Nodup ∧
      Graph.Rearranged .builtin sumInLoop sumInLoopShuffled ∧
      (Source.builtin .minimal).generate sumInLoop =
        (Source.builtin .minimal).generate sumInLoopShuffled ∧
      (Script.builtin 2 .unreachable (.ofSeed 0)).run sumInLoop =
        (Script.builtin 2 .unreachable (.ofSeed 0)).run sumInLoopShuffled ∧
      ((Script.builtin 2 .unreachable (.ofSeed 0)).run sumInLoop).visited =
        [.ofNat 1, .ofNat 2, .ofNat 3, .ofNat 4, .ofNat 3, .ofNat 4] := by
  have ids : (sumInLoop.nodes.toList.map (·.id)).Nodup := by decide +kernel
  obtain ⟨generated, run⟩ := same_of_rearranged .minimal 2 .unreachable (.ofSeed 0) ids
    sumInLoop_rearranged
  exact ⟨ids, sumInLoop_rearranged, generated, run, by decide +kernel⟩

end ScriptGraph
