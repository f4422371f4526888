import ScriptGraph.Proofs.Graph.Surplus
import ScriptGraph.Proofs.Script.Congruence
import ScriptGraph.Proofs.Source.Reserved

/-! # What a document lists twice

A second edge into an input produces nothing there, but control may still come by it: branches may
lead back to one node. A second node with an id is never found, but passes look through all nodes for
those that they start from, for those that need to wait, and for variables.
-/

namespace ScriptGraph

/-- Edges into an input that has a producer make no difference to what is generated or to what
happens in a run, unless control comes by them as by none before. -/
theorem same_withoutEdges (options : Source.Options) (limit : Nat) (exchange : Http.Exchange)
    (draws : Script.Draws) (g : Graph) :
    (Source.builtin options).generate (g.withoutEdges (Workspace.mk g .builtin).isSpare) =
        (Source.builtin options).generate g ∧
      (Script.builtin limit exchange draws).run (g.withoutEdges (Workspace.mk g .builtin).isSpare) =
        (Script.builtin limit exchange draws).run g := by
  have thinned := (Workspace.mk g .builtin).thinned_withoutEdges
  constructor
  · refine (Source.Generator.generate_eq_of_thinned thinned rfl (.refl _) fun v _ => ?_).symm
    exact ((Workspace.mk g .builtin).edgeInto_withoutEdges v.id 1).symm
  · exact (Script.Interpreter.run_eq_of_thinned thinned).symm

/-- Two branches that lead back to one node. -/
def reconverging : Graph :=
  .ofLists
    [{ id := .ofNat 1, kind := Kind.onStart.name },
      { id := .ofNat 2, kind := Kind.condition.name
        properties := [("condition", .string "false")] },
      { id := .ofNat 3, kind := Kind.log.name
        properties := [("message", .string "shared")] }]
    [.between (.ofNat 1) 0 (.ofNat 2) 0, .between (.ofNat 2) 0 (.ofNat 3) 0,
      .between (.ofNat 2) 1 (.ofNat 3) 0]

/-- The second branch leads to the node by an edge that is not the first into its input. -/
theorem reconverging_late_edge_matters :
    ¬ ∀ (options : Source.Options) (limit : Nat) (exchange : Http.Exchange) (draws : Script.Draws)
      (g : Graph),
      (Source.builtin options).generate (g.withoutEdges fun before e => e.isLate before) =
          (Source.builtin options).generate g ∧
        (Script.builtin limit exchange draws).run
            (g.withoutEdges fun before e => e.isLate before) =
          (Script.builtin limit exchange draws).run g := by
  intro h
  have same := congrArg Script.Run.visited (h .minimal 2 .unreachable (.ofSeed 0) reconverging).2
  revert same
  decide +kernel

/-- Shadowed nodes make no difference to what happens in a run if entry nodes are shadowed by entry
nodes only, and none to what is generated if moreover none of them is a variable, and none needs to
wait unless some other node does. -/
theorem same_withoutShadowed (limit : Nat) (exchange : Http.Exchange) (draws : Script.Draws)
    {g : Graph}
    (hentry : g.AllShadowed fun v => Registry.builtin.isEntry v.kind →
      (g.findNode v.id).any (Registry.builtin.isEntry ·.kind)) :
    (Script.builtin limit exchange draws).run g.withoutShadowed =
        (Script.builtin limit exchange draws).run g ∧
      ((g.AllShadowed fun v => v.kind ≠ Kind.var.name ∧
          (Registry.builtin.requiresAsync v.kind →
            (Workspace.mk g.withoutShadowed .builtin).requiresAsync)) →
        ∀ options : Source.Options, (Source.builtin options).generate g.withoutShadowed =
          (Source.builtin options).generate g) := by
  have thinned := Graph.thinned_withoutShadowed hentry
  refine ⟨(Script.Interpreter.run_eq_of_thinned thinned).symm, fun hscan options => Eq.symm ?_⟩
  have vars : g.withoutShadowed.nodesOfKind Kind.var.name = g.nodesOfKind Kind.var.name :=
    Graph.filter_withoutShadowed (hscan.imp fun h hid => by simpa using (h hid).1)
  have async := Graph.requiresAsync_withoutShadowed (hscan.imp fun h hid => (h hid).2)
  exact Source.Generator.generate_eq_of_thinned thinned async.symm (.of_eq vars.symm)
    fun v _ => (g.edgeInto_withoutShadowed v.id 1).symm

/-- A start, a line behind it, and both once more with other properties. -/
def declaredTwice : Graph :=
  .ofLists
    [{ id := .ofNat 1, kind := Kind.onStart.name },
      { id := .ofNat 2, kind := Kind.log.name, properties := [("message", .string "a")] },
      { id := .ofNat 1, kind := Kind.onStart.name },
      { id := .ofNat 2, kind := Kind.log.name, properties := [("message", .string "b")] }]
    [.between (.ofNat 1) 0 (.ofNat 2) 0]

theorem declaredTwice_same :
    (declaredTwice.AllShadowed fun v => Registry.builtin.isEntry v.kind →
      (declaredTwice.findNode v.id).any (Registry.builtin.isEntry ·.kind)) ∧
    (declaredTwice.AllShadowed fun v => v.kind ≠ Kind.var.name ∧
      (Registry.builtin.requiresAsync v.kind →
        (Workspace.mk declaredTwice.withoutShadowed .builtin).requiresAsync)) ∧
    (Script.builtin 2 .unreachable (.ofSeed 0)).run declaredTwice.withoutShadowed =
      (Script.builtin 2 .unreachable (.ofSeed 0)).run declaredTwice ∧
    (Source.builtin .minimal).generate declaredTwice.withoutShadowed =
      (Source.builtin .minimal).generate declaredTwice ∧
    ((Script.builtin 2 .unreachable (.ofSeed 0)).run declaredTwice).visited =
      [.ofNat 1, .ofNat 2] := by
  have entry : declaredTwice.AllShadowed fun v => Registry.builtin.isEntry v.kind →
      (declaredTwice.findNode v.id).any (Registry.builtin.isEntry ·.kind) := by
    unfold Graph.AllShadowed
    decide +kernel
  have scan : declaredTwice.AllShadowed fun v => v.kind ≠ Kind.var.name ∧
      (Registry.builtin.requiresAsync v.kind →
        (Workspace.mk declaredTwice.withoutShadowed .builtin).requiresAsync) := by
    unfold Graph.AllShadowed
    decide +kernel
  obtain ⟨run, generated⟩ := same_withoutShadowed 2 .unreachable (.ofSeed 0) entry
  exact ⟨entry, scan, run, generated scan .minimal, by decide +kernel⟩

/-- A line, a start with the same id, and a line behind it. -/
def shadowedStart : Graph :=
  .ofLists
    [{ id := .ofNat 1, kind := Kind.log.name }, { id := .ofNat 1, kind := Kind.onStart.name },
      { id := .ofNat 2, kind := Kind.log.name, properties := [("message", .string "b")] }]
    [.between (.ofNat 1) 0 (.ofNat 2) 0]

/-- A walk starts at a node that is shadowed by one at which none would. -/
theorem shadowedStart_matters :
    ¬ ∀ (options : Source.Options) (limit : Nat) (exchange : Http.Exchange) (draws : Script.Draws)
      (g : Graph),
      (Source.builtin options).generate g.withoutShadowed = (Source.builtin options).generate g ∧
        (Script.builtin limit exchange draws).run g.withoutShadowed =
          (Script.builtin limit exchange draws).run g := by
  intro h
  have same := congrArg Script.Run.visited (h .minimal 2 .unreachable (.ofSeed 0) shadowedStart).2
  revert same
  decide +kernel

end ScriptGraph
