import ScriptGraph.Proofs.Source.Simulation
import ScriptGraph.Proofs.Source.Traversal
import ScriptGraph.Proofs.Walk.Thinning

/-! # Reserved names

The names of the variables of a graph are reserved before a pass begins, in the order of the nodes.
A pass asks whether a name is reserved and how many are, so the order makes no difference.
-/

namespace ScriptGraph.Source

/-! ### Names in another order -/

theorem Names.firstFree_congr {n n' : Names} (h : ∀ name, n.isTaken name = n'.isTaken name)
    (base : String) (tries counter : Nat) :
    n.firstFree base tries counter = n'.firstFree base tries counter := by
  induction tries generalizing counter with
  | zero => rfl
  | succ tries ih => simp only [firstFree, h, ih]

/-- The state with other names reserved. -/
def Draft.withReserved (d : Draft) (reserved : List String) : Draft :=
  { d with names := { d.names with reserved } }

/-- Two states of passes are the same but for the order of the reserved names. -/
def Reorders (d d' : Draft) : Prop :=
  ∃ reserved, d.names.reserved.Perm reserved ∧ d' = d.withReserved reserved

theorem Reorders.isTaken_eq {d d' : Draft} (h : Reorders d d') (name : String) :
    d.names.isTaken name = d'.names.isTaken name := by
  obtain ⟨reserved, hp, rfl⟩ := h
  unfold Names.isTaken Draft.withReserved
  rw [hp.contains_eq]
  rfl

theorem Reorders.unique_eq {d d' : Draft} (h : Reorders d d') (base : String) :
    (d.names.unique base).1 = (d'.names.unique base).1 := by
  have size : d.names.size = d'.names.size := by
    obtain ⟨reserved, hp, rfl⟩ := h
    simp [Names.size, Draft.withReserved, hp.length_eq]
  unfold Names.unique
  rw [size]
  exact Names.firstFree_congr h.isTaken_eq base _ 0

/-! ### Programs in spite of the order -/

theorem simulates_freshName (base : String) :
    Simulates Reorders (freshName base) (freshName base) := by
  intro d d' h
  have name := h.unique_eq base
  rw [freshName_run, freshName_run, ← name]
  obtain ⟨reserved, hp, rfl⟩ := h
  exact ⟨rfl, reserved, hp, rfl⟩

/-- The programs do the same and leave the reserved names alone. -/
theorem simulates_of_run {α : Type} {x y : EmitM α}
    (h : ∀ d reserved, y.run (d.withReserved reserved) =
      ((x.run d).1, (x.run d).2.withReserved reserved))
    (hr : ∀ d, (x.run d).2.names.reserved = d.names.reserved) : Simulates Reorders x y := by
  rintro d _ ⟨reserved, hp, rfl⟩
  rw [h d reserved]
  exact ⟨rfl, reserved, (hr d).symm ▸ hp, rfl⟩

theorem simulates_enter (id : NodeId) :
    Simulates Reorders (Generator.enter id) (Generator.enter id) :=
  simulates_of_run (fun _ _ => rfl) fun _ => rfl

/-- At a node two passes read the same inputs and declare variables alike. -/
structure Setting.SameInputs (s s' : Setting) (v : Node) : Prop extends
    s.toWorkspace.SameInputs s'.toWorkspace v where
  options : s.options = s'.options
  reassigned : s.isReassigned = s'.isReassigned

/-- Two programs go side by side, whatever the order of the reserved names, after certain nodes have
been entered. -/
abbrev Alongside {α : Type} (entered : List NodeId) (x y : EmitM α) : Prop :=
  Simulates (Beyond (fun d : Draft => d.visited.visited) entered Reorders) x y

theorem alongside_of_simulates {α : Type} {x y : EmitM α} (entered : List NodeId)
    (h : Simulates Reorders x y) (hv : ∀ d, (x.run d).2.visited = d.visited) :
    Alongside entered x y :=
  h.beyond (fun d => (congrArg VisitSet.visited (hv d)).symm ▸ List.Subset.refl _) entered

theorem alongside_of_run {α : Type} {x y : EmitM α} (entered : List NodeId)
    (h : ∀ d reserved, y.run (d.withReserved reserved) =
      ((x.run d).1, (x.run d).2.withReserved reserved))
    (hr : ∀ d, (x.run d).2.names.reserved = d.names.reserved)
    (hv : ∀ d, (x.run d).2.visited = d.visited) : Alongside entered x y :=
  alongside_of_simulates entered (simulates_of_run h hr) hv

theorem alongside_event (entered : List NodeId) (e : Event) : Alongside entered (log e) (log e) :=
  alongside_of_run entered (fun _ _ => rfl) (fun _ => rfl) fun _ => rfl

namespace Setting.SameInputs

variable {s s' : Setting} {v : Node} (h : s.SameInputs s' v)
include h

theorem props_eq : s.props = s'.props := by
  funext u
  unfold Setting.props
  rw [h.registry]

theorem variableName_eq : s.variableName = s'.variableName := by
  unfold Setting.variableName
  rw [h.props_eq]

theorem declared_eq : s.declared = s'.declared := by
  unfold Setting.declared Setting.declaration Setting.declaredKeyword Setting.declaredValue
  rw [h.variableName_eq, h.props_eq, h.options, h.reassigned]

theorem withProducer_eq (index : Nat) : s.withProducer v index = s'.withProducer v index := by
  unfold Setting.withProducer Setting.undeclared?
  rw [h.producer, h.variableName_eq, h.declared_eq]

theorem resolveInput_eq (index : Nat) (d : Draft) :
    s.resolveInput (s.outputSource d) v index = s'.resolveInput (s'.outputSource d) v index := by
  unfold Workspace.resolveInput Setting.outputSource
  rw [h.producer, h.props_eq]

theorem simulates_input (index : Nat) :
    Simulates Reorders (s.input v index) (s'.input v index) := by
  refine simulates_of_run (fun d reserved => ?_) fun d => ?_
  · have producer : s'.withProducer v index (d.withReserved reserved) =
        (s'.withProducer v index d).withReserved reserved := by
      have undeclared : s'.undeclared? (d.withReserved reserved).names v index =
          s'.undeclared? d.names v index := rfl
      unfold Setting.withProducer
      rw [undeclared]
      cases s'.undeclared? d.names v index <;> rfl
    rw [input_run, input_run, h.resolveInput_eq, h.withProducer_eq, producer]
    rfl
  · rw [input_run]
    change (s.withProducer v index d).names.reserved = _
    unfold Setting.withProducer
    split <;> rfl

/-- Emitters do the same at the node, and take no node back. -/
theorem similar (entered : List NodeId) :
    s.Similar (Beyond (fun d : Draft => d.visited.visited) entered Reorders) s' v v where
  props := by
    rw [h.props_eq]
    exact .refl _
  log := alongside_event entered
  indent := alongside_of_run entered (fun _ _ => rfl) (fun _ => rfl) fun _ => rfl
  dedent := alongside_of_run entered (fun _ _ => rfl) (fun _ => rfl) fun _ => rfl
  freshName base := by
    refine alongside_of_simulates entered (simulates_freshName base) fun d => ?_
    rw [freshName_run]
    rfl
  isDeclared _ := alongside_of_run entered (fun _ _ => rfl) (fun _ => rfl) fun _ => rfl
  record _ _ := alongside_of_run entered (fun _ _ => rfl) (fun _ => rfl) fun _ => rfl
  input _ := by
    refine alongside_of_simulates entered (h.simulates_input _) fun d => ?_
    simp [input_run, Draft.logged]
  declareVariable assigned := by
    refine alongside_of_run entered (fun d reserved => ?_) (fun d => ?_) fun d => ?_
    · rw [declareVariable_run, declareVariable_run, h.declared_eq]
      rfl
    · rw [declareVariable_run]
      rfl
    · rw [declareVariable_run]
      rfl
  declareResult name value := by
    have keyword : s.resultKeyword = s'.resultKeyword := by
      unfold Setting.resultKeyword
      rw [h.options]
    rw [keyword]
    exact alongside_event entered _
  recordPrimary expression := by
    have primary : s.recordPrimary v = s'.recordPrimary v := by
      unfold Setting.recordPrimary
      rw [h.registry]
    rw [primary]
    unfold Setting.recordPrimary
    cases (s'.registry.portsOf? v).bind (·.primaryOutput?) with
    | none => exact .pure ()
    | some port =>
      exact alongside_of_run entered (fun _ _ => rfl) (fun _ => rfl) fun _ => rfl

end Setting.SameInputs

/-! ### Whole passes -/

namespace Generator

variable {options : Options} {s s' : Setting} {v : Node} {entered : List NodeId}
  {graph graph' : Graph}

theorem alongside_emit (h : s.SameInputs s' v) {visit visit' : Node → EmitM Unit}
    (hb : ∀ port, Alongside entered (s.branch visit v port) (s'.branch visit' v port)) :
    Alongside entered ((builtin options).emit s visit v) ((builtin options).emit s' visit' v) := by
  have event (e : Event) : Alongside entered (log e) (log e) := alongside_event entered e
  have finish (flow : Flow) : Alongside entered
      (do
        if options.emitComments then
          write (.finished v.kind)
          log .blank
        return flow)
      (do
        if options.emitComments then
          write (.finished v.kind)
          log .blank
        return flow) :=
    .ite ((event _).bind fun _ => (event _).bind fun _ => .pure _) (.pure _)
  unfold emit
  rw [emitters_builtin]
  refine (event _).bind fun _ => ?_
  cases Kind.ofName? v.kind with
  | some kind =>
    have content := (simulates_builtin (h.similar entered) hb kind fun _ => rfl).bind finish
    exact .ite ((event _).bind fun _ => content) content
  | none =>
    have content (text : String) := (event (.write (.plain text))).bind fun _ =>
      (Simulates.pure Flow.proceed).bind finish
    exact .ite ((event _).bind fun _ => content _) (content _)

/-- A graph that looks thinned from another, with the same variables in any order, is drafted as the
other is. -/
theorem draft_reorders_of_thinned (h : (Workspace.mk graph .builtin).Thinned ⟨graph', .builtin⟩)
    (hvars : (graph.nodesOfKind Kind.var.name).Perm (graph'.nodesOfKind Kind.var.name))
    (hwired : ∀ v ∈ graph.nodes.toList, graph.edgeInto v.id 1 = graph'.edgeInto v.id 1) :
    Reorders ((builtin options).draft graph) ((builtin options).draft graph') := by
  let g := builtin options
  have reassigned : (g.setting graph).isReassigned = (g.setting graph').isReassigned :=
    funext fun _ => Setting.isReassigned_eq_of_perm (hvars.filter _) hwired
  have start : Reorders (g.start graph) (g.start graph') := ⟨_, (hvars.map _).filter _, rfl⟩
  have thinned : (g.setting graph).toWorkspace.Thinned (g.setting graph').toWorkspace := h
  refine related_of_thinned (governs options (g.setting graph)) (fun _ _ => rfl) simulates_enter
    thinned ?_ (governs options (g.setting graph')) start trivial trivial
  intro visit visit' accords v hv entered
  have inputs : (g.setting graph).SameInputs (g.setting graph') v :=
    { thinned.inputs hv with options := rfl, reassigned }
  exact alongside_emit inputs fun port => accords.visitFlow thinned hv (.follow port)

/-- What is written depends on the order of the reserved names as little. -/
theorem generate_eq_of_thinned (h : (Workspace.mk graph .builtin).Thinned ⟨graph', .builtin⟩)
    (hasync : (Workspace.mk graph .builtin).requiresAsync =
      (Workspace.mk graph' .builtin).requiresAsync)
    (hvars : (graph.nodesOfKind Kind.var.name).Perm (graph'.nodesOfKind Kind.var.name))
    (hwired : ∀ v ∈ graph.nodes.toList, graph.edgeInto v.id 1 = graph'.edgeInto v.id 1) :
    (builtin options).generate graph = (builtin options).generate graph' := by
  have async : ((builtin options).setting graph).requiresAsync =
      ((builtin options).setting graph').requiresAsync := hasync
  have header : (builtin options).header graph = (builtin options).header graph' := by
    unfold Generator.header
    rw [async]
  have drafted : Reorders ((builtin options).draft graph) ((builtin options).draft graph') :=
    draft_reorders_of_thinned h hvars hwired
  obtain ⟨reserved, -, same⟩ := drafted
  unfold generate steps
  rw [header, same]
  rfl

end Generator

end ScriptGraph.Source
