import ScriptGraph.Proofs.Script.Congruence
import ScriptGraph.Proofs.Script.Debugging
import ScriptGraph.Proofs.Source.Reserved

/-! # Disconnected material

Nodes with ids of their own, and edges among them, may lie beside a graph. No walk comes to them, so
that they make no difference to a run unless a walk starts there. What is generated also depends on
whether some node needs to wait, and on the names of all variables.
-/

namespace ScriptGraph

namespace Script.Interleaves

variable {α : Type} {xs ys zs : List α} {p : α → Bool}

theorem filter_eq (h : Interleaves xs ys zs) (hy : ∀ y ∈ ys, ¬ p y) : zs.filter p = xs.filter p := by
  induction h with
  | nil => rfl
  | left _ ih => rw [List.filter_cons, List.filter_cons, ih hy]
  | right _ ih =>
    obtain ⟨first, rest⟩ := List.forall_mem_cons.mp hy
    rw [List.filter_cons_of_neg first, ih rest]

theorem find?_eq (h : Interleaves xs ys zs) (hy : ∀ y ∈ ys, ¬ p y) : zs.find? p = xs.find? p := by
  rw [← List.head?_filter, h.filter_eq hy, List.head?_filter]

end Script.Interleaves

namespace Graph

open Script (Interleaves)

/-- An id that neither a node nor an edge mentions. -/
structure Unused (g : Graph) (id : NodeId) : Prop where
  nodes : ∀ v ∈ g.nodes.toList, v.id ≠ id
  edges : ∀ e ∈ g.edges.toList, e.source.node ≠ id ∧ e.target.node ≠ id

/-- The second graph has more nodes, with ids of their own, and more edges, from added nodes to added
nodes. -/
structure Extends (g g' : Graph) (vs : List Node) (es : List Edge) : Prop where
  nodes : Interleaves g.nodes.toList vs g'.nodes.toList
  edges : Interleaves g.edges.toList es g'.edges.toList
  unused : ∀ v ∈ vs, g.Unused v.id
  apart : ∀ e ∈ es, (∃ v ∈ vs, v.id = e.source.node) ∧ ∃ v ∈ vs, v.id = e.target.node

namespace Extends

variable {g g' : Graph} {vs : List Node} {es : List Edge} (h : g.Extends g' vs es)
include h

theorem findNode_eq {id : NodeId} (hid : ∀ v ∈ vs, v.id ≠ id) :
    g'.findNode id = g.findNode id := by
  rw [findNode_eq_find?, findNode_eq_find?]
  exact h.nodes.find?_eq fun v hv => by simpa using hid v hv

theorem edgeInto_eq {v : Node} (hv : v ∈ g.nodes.toList) (index : Nat) :
    g'.edgeInto v.id index = g.edgeInto v.id index := by
  rw [edgeInto_eq_find?, edgeInto_eq_find?]
  refine h.edges.find?_eq fun e he => ?_
  obtain ⟨-, u, hu, target⟩ := h.apart e he
  have other : e.target.node ≠ v.id := target ▸ ((h.unused u hu).nodes v hv).symm
  simp [Endpoint.ref, other]

theorem leads_eq {registry : Registry} {v : Node} (hv : v ∈ g.nodes.toList) (port : Option Nat) :
    g'.edges.toList.filter ((Workspace.mk g' registry).leads v port) =
      g.edges.toList.filter ((Workspace.mk g registry).leads v port) := by
  refine h.edges.filter_eq fun e he => ?_
  obtain ⟨⟨u, hu, source⟩, -⟩ := h.apart e he
  have other : e.source.node ≠ v.id := source ▸ ((h.unused u hu).nodes v hv).symm
  simp [Workspace.leads, other]

/-- From the nodes of a graph an extension looks the same, if no walk starts at an added node. -/
theorem thinned {registry : Registry} (hentry : ∀ v ∈ vs, ¬ registry.isEntry v.kind) :
    (Workspace.mk g registry).Thinned ⟨g', registry⟩ where
  inputs hv := .of_edgeInto rfl (fun index => (h.edgeInto_eq hv index).symm) fun e he =>
    (h.findNode_eq fun v hv => ((h.unused v hv).edges e he).1.symm).symm
  successors hv port := by
    refine Workspace.thins_controlSuccessors ?_ fun e he =>
      (h.findNode_eq fun v hv => ((h.unused v hv).edges e he).2.symm).symm
    exact h.leads_eq hv port ▸ .refl ..
  entries := by
    have same : (Workspace.mk g' registry).entryNodes = (Workspace.mk g registry).entryNodes :=
      h.nodes.filter_eq hentry
    exact same ▸ .refl ..

end Extends

end Graph

/-- What lies beside a graph makes no difference to what happens in a run if no walk starts there,
and none to what is generated if moreover it has no variables and nothing that needs to wait. -/
theorem same_of_extends (limit : Nat) (exchange : Http.Exchange) (draws : Script.Draws)
    {g g' : Graph} {vs : List Node} {es : List Edge} (h : g.Extends g' vs es)
    (hentry : ∀ v ∈ vs, ¬ Registry.builtin.isEntry v.kind) :
    (Script.builtin limit exchange draws).run g' = (Script.builtin limit exchange draws).run g ∧
      ((∀ v ∈ vs, v.kind ≠ Kind.var.name ∧ ¬ Registry.builtin.requiresAsync v.kind) →
        ∀ options : Source.Options,
          (Source.builtin options).generate g' = (Source.builtin options).generate g) := by
  have thinned := h.thinned hentry
  refine ⟨(Script.Interpreter.run_eq_of_thinned thinned).symm, fun hscan options => Eq.symm ?_⟩
  have vars : g'.nodesOfKind Kind.var.name = g.nodesOfKind Kind.var.name :=
    h.nodes.filter_eq fun v hv => by simpa using (hscan v hv).1
  refine Source.Generator.generate_eq_of_thinned thinned ?_ (.of_eq vars.symm)
    fun v hv => (h.edgeInto_eq hv 1).symm
  rw [Workspace.requiresAsync_eq_any, Workspace.requiresAsync_eq_any]
  exact any_eq_of_filter_eq (h.nodes.filter_eq fun v hv => (hscan v hv).2).symm

/-- A start and a line behind it. -/
def greeting : Graph :=
  .ofLists
    [{ id := .ofNat 1, kind := Kind.onStart.name }, { id := .ofNat 2, kind := Kind.log.name }]
    [.between (.ofNat 1) 0 (.ofNat 2) 0]

/-- A line and a condition that leads to it. -/
def besideNodes : List Node :=
  [{ id := .ofNat 3, kind := Kind.log.name }, { id := .ofNat 4, kind := Kind.condition.name }]

/-- The same with a line and a condition in between, to which nothing leads. -/
def greetingBeside : Graph :=
  .ofLists
    [{ id := .ofNat 3, kind := Kind.log.name }, { id := .ofNat 1, kind := Kind.onStart.name },
      { id := .ofNat 4, kind := Kind.condition.name }, { id := .ofNat 2, kind := Kind.log.name }]
    [.between (.ofNat 4) 0 (.ofNat 3) 0, .between (.ofNat 1) 0 (.ofNat 2) 0]

theorem greeting_extends :
    greeting.Extends greetingBeside besideNodes [.between (.ofNat 4) 0 (.ofNat 3) 0] where
  nodes := .right (.left (.right (.left .nil)))
  edges := .right (.left .nil)
  unused := List.forall_mem_cons.mpr ⟨⟨by decide +kernel, by decide +kernel⟩,
    List.forall_mem_singleton.mpr ⟨by decide +kernel, by decide +kernel⟩⟩
  apart := by decide +kernel

theorem greetingBeside_same :
    greeting.Extends greetingBeside besideNodes [.between (.ofNat 4) 0 (.ofNat 3) 0] ∧
      (∀ v ∈ besideNodes, ¬ Registry.builtin.isEntry v.kind) ∧
      (∀ v ∈ besideNodes, v.kind ≠ Kind.var.name ∧ ¬ Registry.builtin.requiresAsync v.kind) ∧
      (Script.builtin 2 .unreachable (.ofSeed 0)).run greetingBeside =
        (Script.builtin 2 .unreachable (.ofSeed 0)).run greeting ∧
      (Source.builtin .minimal).generate greetingBeside =
        (Source.builtin .minimal).generate greeting ∧
      ((Script.builtin 2 .unreachable (.ofSeed 0)).run greeting).visited =
        [.ofNat 1, .ofNat 2] := by
  have entry : ∀ v ∈ besideNodes, ¬ Registry.builtin.isEntry v.kind := by decide +kernel
  have scan : ∀ v ∈ besideNodes,
      v.kind ≠ Kind.var.name ∧ ¬ Registry.builtin.requiresAsync v.kind := by
    decide +kernel
  obtain ⟨run, generated⟩ := same_of_extends 2 .unreachable (.ofSeed 0) greeting_extends entry
  exact ⟨greeting_extends, entry, scan, run, generated scan .minimal, by decide +kernel⟩

end ScriptGraph
