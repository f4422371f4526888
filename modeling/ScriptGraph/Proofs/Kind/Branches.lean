import ScriptGraph.Proofs.Graph.Successors
import ScriptGraph.Proofs.Kind.Names

/-! # Branching kinds

Five kinds choose among their control outputs, or follow one again and again. A node of such a kind
has no control outputs but those that its kind names.
-/

namespace ScriptGraph

namespace Kind

/-- Whether nodes of the kind choose among their control outputs, or follow one again and again. -/
def branches : Kind → Bool
  | .ifThen | .condition | .switch | .whileLoop | .forLoop => true
  | _ => false

/-- The inputs without which a node of the kind leads nowhere. -/
def decisive : Kind → List Nat
  | .ifThen => [1, 2]
  | .switch => [1]
  | _ => []

/-- Whether nodes of the kind choose one of their control outputs. -/
def decides : Kind → Bool
  | .ifThen | .condition | .switch => true
  | _ => false

/-- Whether nodes of the kind follow one of their control outputs again and again. -/
def loops : Kind → Bool
  | .whileLoop | .forLoop => true
  | _ => false

theorem branches_of_decides {kind : Kind} (h : kind.decides) : kind.branches := by
  cases kind with
  | ifThen | condition | switch => rfl
  | _ => cases h

theorem branches_of_loops {kind : Kind} (h : kind.loops) : kind.branches := by
  cases kind with
  | whileLoop | forLoop => rfl
  | _ => cases h

theorem not_loops_of_decides {kind : Kind} (h : kind.decides) : kind.loops = false := by
  cases kind with
  | ifThen | condition | switch => rfl
  | _ => cases h

end Kind

/-- The cases of a switch: the well-formed ones that its properties list, or a first one where they
do not speak of cases at all. -/
def Node.switchCases (v : Node) : List SwitchCase :=
  match v.properties.get? "cases" with
  | none => [{ outputLabel := some "Case 1" }]
  | some (.array items) => items.filterMap SwitchCase.ofValue?
  | some _ => []

theorem list_switchCases (v : Node) :
    SwitchCase.list ((v.properties.get? "cases").or (Kind.switch.descriptor.defaultOf? "cases")) =
      v.switchCases := by
  unfold Node.switchCases
  cases v.properties.get? "cases" with
  | none => decide +kernel
  | some value => cases value <;> rfl

/-- A switch has an output for each of its cases, behind the one for the default. -/
theorem outputs_switch (v : Node) :
    (Kind.switch.descriptor.ports v.properties).outputs =
      .control "Default" "Triggered if no cases match" ::
        v.switchCases.mapIdx fun index c => .control (c.label index) := by
  rw [← list_switchCases]
  rfl

namespace Workspace

variable (w : Workspace) (v : Node)

/-- The cases of a switch. -/
def cases : List SwitchCase :=
  SwitchCase.list ((w.registry.props v).get? "cases")

/-- The outputs of a switch in the order of its blocks. -/
def casePorts : List Nat :=
  List.range' 1 (w.cases v).length ++ [0]

/-- By how much a counting loop counts. -/
def loopStep : Float :=
  ((w.registry.props v).number? "step").getD 1

/-- The outputs among which a node of a branching kind chooses. -/
def branchPorts (kind : Kind) : List Nat :=
  if kind = .switch then w.casePorts v else [0, 1]

variable {w : Workspace} {u v : Node}

theorem cases_eq (hr : w.registry = .builtin) (hk : u.kind = Kind.switch.name) :
    w.cases u = u.switchCases := by
  rw [cases, hr, Registry.props, Registry.get?_builtin, hk, Kind.ofName?_name]
  exact list_switchCases u

/-- A branching node has no other outputs. -/
theorem mem_branchPorts (hr : w.registry = .builtin) {kind : Kind}
    (hk : Kind.ofName? u.kind = some kind) (hb : kind.branches) {ports : Ports}
    (hp : w.registry.portsOf? u = some ports) {port : Nat} (h : port < ports.outputs.length) :
    port ∈ w.branchPorts u kind := by
  have named := Kind.ofName?_eq_some_iff.mp hk
  rw [hr, Registry.portsOf?_builtin named] at hp
  obtain rfl := Option.some.inj hp
  unfold branchPorts
  cases kind with
  | switch =>
    rw [outputs_switch, List.length_cons, List.length_mapIdx, ← cases_eq hr named] at h
    rw [if_pos rfl, casePorts, List.mem_append, List.mem_range'_1, List.mem_singleton]
    omega
  | ifThen | condition | whileLoop | forLoop =>
    have h : port < 2 := h
    simp only [reduceCtorEq, if_false, List.mem_cons, List.not_mem_nil, or_false]
    omega
  | _ => cases hb

theorem exists_branchPort (hr : w.registry = .builtin) {kind : Kind}
    (hk : Kind.ofName? u.kind = some kind) (hb : kind.branches)
    (hv : v ∈ w.controlSuccessors u none) :
    ∃ port ∈ w.branchPorts u kind, v ∈ w.controlSuccessors u (some port) := by
  obtain ⟨edge, he, -, hc, hf⟩ := mem_controlSuccessors.mp hv
  refine ⟨edge.source.port, ?_, mem_controlSuccessors.mpr ⟨edge, he, by simp, hc, hf⟩⟩
  cases hp : w.registry.portsOf? u with
  | none =>
    rw [hr, Registry.portsOf?_builtin (Kind.ofName?_eq_some_iff.mp hk)] at hp
    cases hp
  | some ports =>
    unfold isControl at hc
    rw [hp] at hc
    refine mem_branchPorts hr hk hb hp ?_
    by_contra hge
    simp [Ports.outputKind?, List.getElem?_eq_none (Nat.le_of_not_lt hge)] at hc

end Workspace

end ScriptGraph
