import Mathlib.Data.List.Forall2
import ScriptGraph.Graph.Walk
import ScriptGraph.Proofs.Graph.Lookup
import ScriptGraph.Proofs.Kind.Names
import ScriptGraph.Proofs.Kind.Properties

/-! # Nodes under another kind

A registry can know a built-in kind once more under a name of the user's. Nodes of the kind may then
go by that name. They have the same ports and the same properties as before, and a walk over the
graph leads from them and to them along the same ways.
-/

namespace ScriptGraph

/-- The node stays as it is, or it changes its kind for the user's. The user's kind is new. -/
inductive Node.Renamed (kind user : String) : Node → Node → Prop where
  | kept {v : Node} : v.kind ≠ user → Renamed kind user v v
  | renamed {v : Node} : v.kind = kind → Renamed kind user v { v with kind := user }

/-- The same graph but for some nodes of a kind, which go by the user's. -/
structure Graph.Renames (kind user : String) (g g' : Graph) : Prop where
  nodes : List.Forall₂ (Node.Renamed kind user) g.nodes.toList g'.nodes.toList
  edges : g.edges = g'.edges

/-- The built-in registry with a kind once more under the user's name. -/
abbrev Registry.aliased (user : String) (kind : Kind) : Registry :=
  builtin.withAlias user kind.name

/-- Whoever reads an input that is wired to one of the nodes sees no difference between them: they
are the same, or neither is of a kind that is looked at there. -/
def Node.ReadAlike (v v' : Node) : Prop :=
  v = v' ∨ ∀ kind ∈ [Kind.var, Kind.constant], v.kind ≠ kind.name ∧ v'.kind ≠ kind.name

/-- Whoever reads an input sees no difference between the graphs: readers do not look at the kind,
or all nodes that are wired to inputs have kept theirs. -/
def Graph.ReadAlike (kind : Kind) (g g' : Graph) : Prop :=
  (kind ≠ .var ∧ kind ≠ .constant) ∨
    ∀ e ∈ g.edges.toList, e.target.port ≠ 0 → g.findNode e.source.node = g'.findNode e.source.node

/-- Two workspaces look the same from related nodes. -/
structure Workspace.Resembles (N : Node → Node → Prop) (w w' : Workspace) : Prop where
  id {v v' : Node} (hv : N v v') : v.id = v'.id
  properties {v v' : Node} (hv : N v v') : (w.registry.props v).Agree (w'.registry.props v')
  ports {v v' : Node} (hv : N v v') : w.registry.portsOf? v = w'.registry.portsOf? v'
  /-- The first input is the one that control comes by. -/
  producer {v v' : Node} (hv : N v v') {index : Nat} (hi : index ≠ 0) :
    Option.Rel (fun p p' => N p.1 p'.1 ∧ p.1.ReadAlike p'.1 ∧ p.2 = p'.2)
      (w.producer? v index) (w'.producer? v' index)
  successors {v v' : Node} (hv : N v v') (port : Option Nat) :
    List.Forall₂ N (w.controlSuccessors v port) (w'.controlSuccessors v' port)

/-! ### What is known of the user's kind -/

theorem Kind.name_descriptor (kind : Kind) : kind.descriptor.name = kind.name := by
  cases kind <;> rfl

theorem Registry.get?_aliased (user : String) (kind : Kind) (text : String) :
    (aliased user kind).get? text =
      if text = user then some { kind.descriptor with name := user } else builtin.get? text := by
  have known : builtin.get? kind.name = some kind.descriptor := by
    rw [get?_builtin, Kind.ofName?_name]
    rfl
  unfold aliased withAlias
  rw [known]
  exact Table.get?_insert ..

namespace Node.Renamed

variable {kind : Kind} {user : String} {v v' : Node}

theorem id_eq (h : v.Renamed kind.name user v') : v.id = v'.id := by
  cases h <;> rfl

theorem properties_eq (h : v.Renamed kind.name user v') : v.properties = v'.properties := by
  cases h <;> rfl

/-- The kinds of the two nodes are described alike but for the name. -/
theorem get?_eq (h : v.Renamed kind.name user v') :
    (Registry.aliased user kind).get? v'.kind =
      (Registry.builtin.get? v.kind).map fun d => { d with name := v'.kind } := by
  cases h with
  | kept hn =>
    rw [Registry.get?_aliased, if_neg hn, Registry.get?_builtin]
    cases hk : Kind.ofName? v.kind with
    | none => rfl
    | some own =>
      have name : own.descriptor.name = v.kind := by
        rw [Kind.name_descriptor, Kind.ofName?_eq_some_iff.mp hk]
      simp only [Option.map_some, ← name]
  | renamed hk =>
    rw [Registry.get?_aliased, if_pos rfl, Registry.get?_builtin, hk, Kind.ofName?_name]
    rfl

theorem portsOf?_eq (h : v.Renamed kind.name user v') :
    Registry.builtin.portsOf? v = (Registry.aliased user kind).portsOf? v' := by
  unfold Registry.portsOf? Registry.derivePorts?
  rw [h.get?_eq, Option.map_map, h.properties_eq]
  rfl

theorem isEntry_eq (h : v.Renamed kind.name user v') :
    Registry.builtin.isEntry v.kind = (Registry.aliased user kind).isEntry v'.kind := by
  unfold Registry.isEntry
  rw [h.get?_eq, Option.any_map]

theorem requiresAsync_eq (h : v.Renamed kind.name user v') :
    Registry.builtin.requiresAsync v.kind =
      (Registry.aliased user kind).requiresAsync v'.kind := by
  unfold Registry.requiresAsync
  rw [h.get?_eq, Option.any_map]

/-- The two nodes are the same, or neither is of a built-in kind that has kept its name. -/
theorem eq_or_kind_ne (hu : Kind.ofName? user = none) {own : Kind} (hk : kind ≠ own)
    (h : v.Renamed kind.name user v') :
    v = v' ∨ v.kind ≠ own.name ∧ v'.kind ≠ own.name := by
  cases h with
  | kept => exact .inl rfl
  | renamed hv =>
    refine .inr ⟨?_, ?_⟩
    · intro same
      have same : Kind.ofName? kind.name = Kind.ofName? own.name := by rw [← hv, same]
      rw [Kind.ofName?_name, Kind.ofName?_name] at same
      exact hk (Option.some.inj same)
    · rintro rfl
      rw [Kind.ofName?_name] at hu
      cases hu

theorem readAlike (hu : Kind.ofName? user = none) (hk : kind ≠ .var ∧ kind ≠ .constant)
    (h : v.Renamed kind.name user v') : v.ReadAlike v' := by
  rcases h.eq_or_kind_ne hu hk.1 with same | var
  · exact .inl same
  rcases h.eq_or_kind_ne hu hk.2 with same | constant
  · exact .inl same
  refine .inr fun read hread => ?_
  simp only [List.mem_cons, List.not_mem_nil, or_false] at hread
  rcases hread with rfl | rfl
  · exact var
  · exact constant

/-- Whatever property is asked for, the two nodes have the same. -/
theorem props_agree (h : v.Renamed kind.name user v') :
    (Registry.builtin.props v).Agree ((Registry.aliased user kind).props v') := by
  intro name
  unfold Registry.props Props.get?
  dsimp only
  rw [h.get?_eq, h.properties_eq]
  cases Registry.builtin.get? v.kind <;> rfl

end Node.Renamed

/-! ### Ways through the graph -/

namespace Graph.Renames

variable {kind : Kind} {user : String} {g g' : Graph} {v v' : Node}
  (h : Renames kind.name user g g')
include h

theorem size_eq : g.nodes.size = g'.nodes.size := by
  simpa using h.nodes.length_eq

theorem findNode_rel (id : NodeId) :
    Option.Rel (Node.Renamed kind.name user) (g.findNode id) (g'.findNode id) := by
  rw [findNode_eq_find?, findNode_eq_find?]
  have nodes := h.nodes
  generalize g.nodes.toList = before at nodes
  generalize g'.nodes.toList = after at nodes
  induction nodes with
  | nil => exact .none
  | cons hv _ ih =>
    rw [List.find?_cons, List.find?_cons, hv.id_eq]
    split
    · exact .some hv
    · exact ih

theorem edgeInto_eq (id : NodeId) (input : Nat) : g.edgeInto id input = g'.edgeInto id input := by
  rw [edgeInto_eq_find?, edgeInto_eq_find?, h.edges]

theorem entryNodes_rel : List.Forall₂ (Node.Renamed kind.name user)
    (Workspace.mk g .builtin).entryNodes (Workspace.mk g' (.aliased user kind)).entryNodes := by
  refine List.rel_filter ?_ h.nodes
  intro v v' hv
  change Registry.builtin.isEntry v.kind ↔ (Registry.aliased user kind).isEntry v'.kind
  rw [hv.isEntry_eq]

theorem controlSuccessors_rel (hv : v.Renamed kind.name user v') (port : Option Nat) :
    List.Forall₂ (Node.Renamed kind.name user)
      ((Workspace.mk g .builtin).controlSuccessors v port)
      ((Workspace.mk g' (.aliased user kind)).controlSuccessors v' port) := by
  have control : (Workspace.mk g .builtin).isControl v =
      (Workspace.mk g' (.aliased user kind)).isControl v' := by
    unfold Workspace.isControl
    rw [hv.portsOf?_eq]
  unfold Workspace.controlSuccessors
  dsimp only
  rw [toList_edgesFrom, toList_edgesFrom, h.edges, hv.id_eq, control]
  refine List.rel_filterMap (R := Eq) ?_ (List.forall₂_eq_eq_eq ▸ rfl)
  rintro edge _ rfl
  exact h.findNode_rel _

/-- Behind an input stands the same output of two nodes that differ by their kinds at most, and not
by kinds that matter there. -/
theorem producer?_rel (hu : Kind.ofName? user = none) (hr : g.ReadAlike kind g')
    (hv : v.Renamed kind.name user v') {input : Nat} (hi : input ≠ 0) :
    Option.Rel (fun p p' => p.1.Renamed kind.name user p'.1 ∧ p.1.ReadAlike p'.1 ∧ p.2 = p'.2)
      ((Workspace.mk g .builtin).producer? v input)
      ((Workspace.mk g' (.aliased user kind)).producer? v' input) := by
  unfold Workspace.producer?
  dsimp only
  rw [← h.edgeInto_eq, ← hv.id_eq]
  cases he : g.edgeInto v.id input with
  | none => exact .none
  | some edge =>
    have found := h.findNode_rel edge.source.node
    have same : (kind ≠ .var ∧ kind ≠ .constant) ∨
        g.findNode edge.source.node = g'.findNode edge.source.node := by
      refine hr.imp_right fun hr => hr edge ?_ ?_
      · rw [edgeInto_eq_find?] at he
        exact List.mem_of_find?_eq_some he
      · rw [edgeInto_eq_find?] at he
        have target : edge.target.ref = ⟨v.id, input⟩ := by simpa using List.find?_some he
        rw [show edge.target.port = input from congrArg PortRef.port target]
        exact hi
    simp only [Option.bind_eq_bind, Option.bind_some]
    generalize g.findNode edge.source.node = p at found same
    generalize g'.findNode edge.source.node = p' at found same
    cases found with
    | none => exact .none
    | some hp =>
      refine .some ⟨hp, ?_, rfl⟩
      rcases same with unread | same
      · exact hp.readAlike hu unread
      · exact .inl (Option.some.inj same)

/-- From a node the graph looks the same whether some nodes go by the user's kind or not. -/
theorem resembles (hu : Kind.ofName? user = none) (hr : g.ReadAlike kind g') :
    (Workspace.mk g .builtin).Resembles (Node.Renamed kind.name user)
      ⟨g', .aliased user kind⟩ where
  id hv := hv.id_eq
  properties hv := hv.props_agree
  ports hv := hv.portsOf?_eq
  producer hv _ hi := h.producer?_rel hu hr hv hi
  successors hv := h.controlSuccessors_rel hv

theorem requiresAsync_eq : (Workspace.mk g .builtin).requiresAsync =
    (Workspace.mk g' (.aliased user kind)).requiresAsync := by
  unfold Workspace.requiresAsync
  rw [← Array.any_toList, ← Array.any_toList]
  have nodes := h.nodes
  dsimp only
  generalize g.nodes.toList = before at nodes
  generalize g'.nodes.toList = after at nodes
  induction nodes with
  | nil => rfl
  | cons hv _ ih => rw [List.any_cons, List.any_cons, hv.requiresAsync_eq, ih]

/-- The nodes of other kinds are the same. -/
theorem nodesOfKind_eq (hu : Kind.ofName? user = none) {own : Kind} (hk : kind ≠ own) :
    g.nodesOfKind own.name = g'.nodesOfKind own.name := by
  unfold nodesOfKind
  have nodes := h.nodes
  generalize g.nodes.toList = before at nodes
  generalize g'.nodes.toList = after at nodes
  induction nodes with
  | nil => rfl
  | cons hv _ ih =>
    rcases hv.eq_or_kind_ne hu hk with rfl | ⟨before, after⟩
    · rw [List.filter_cons, List.filter_cons, ih]
    · rw [List.filter_cons_of_neg (by simpa using before),
        List.filter_cons_of_neg (by simpa using after), ih]

end Graph.Renames

end ScriptGraph
