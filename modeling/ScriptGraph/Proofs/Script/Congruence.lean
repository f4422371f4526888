import ScriptGraph.Proofs.Script.Simulation
import ScriptGraph.Proofs.Script.Traversal
import ScriptGraph.Proofs.Walk.Thinning

/-! # What executions depend on

The built-in executors know the graph only from the node that they execute: by the producers behind
its inputs and by the visits along its outputs. Where the inputs are the same and the visits do the
same, so does the execution.
-/

namespace ScriptGraph.Script

/-- At a node two runs read the same inputs and meet the same world. -/
structure Setting.SameInputs (s s' : Setting) (v : Node) : Prop extends
    s.toWorkspace.SameInputs s'.toWorkspace v where
  limit : s.maxLoopIterations = s'.maxLoopIterations
  exchange : s.exchange = s'.exchange
  draws : s.draws = s'.draws

/-- Two programs go side by side if they do the same, after certain nodes have been entered. -/
abbrev Alongside {α : Type} (entered : List NodeId) (x y : RunM α) : Prop :=
  Simulates (Beyond (fun m : Machine => m.visited.visited) entered Eq) x y

theorem alongside_of_eq {α : Type} {x y : RunM α} (entered : List NodeId) (h : x = y)
    (hv : ∀ m, (x.run m).2.visited = m.visited) : Alongside entered x y :=
  (Simulates.of_eq h).beyond (fun m => (congrArg VisitSet.visited (hv m)).symm ▸ List.Subset.refl _)
    entered

variable {s s' : Setting} {v : Node} {entered : List NodeId}

namespace Setting.SameInputs

variable (h : s.SameInputs s' v)
include h

theorem props_eq : s.props = s'.props := by
  funext u
  unfold Setting.props
  rw [h.registry]

theorem initialValue_eq : s.initialValue = s'.initialValue := by
  unfold Setting.initialValue
  rw [h.props_eq]

theorem variableName_eq : s.variableName = s'.variableName := by
  unfold Setting.variableName
  rw [h.props_eq]

theorem producerVariable?_eq (index : Nat) :
    s.producerVariable? v index = s'.producerVariable? v index := by
  unfold Setting.producerVariable?
  rw [h.producer]

theorem input_eq (index : Nat) : s.input v index = s'.input v index := by
  have bound : s.bindProducer v index = s'.bindProducer v index := by
    unfold Setting.bindProducer
    rw [h.producerVariable?_eq, h.variableName_eq, h.initialValue_eq]
  have source : s.outputSource = s'.outputSource := by
    funext m
    unfold Setting.outputSource
    rw [h.variableName_eq, h.props_eq]
  have resolved (m : Machine) : s.resolveInput (s.outputSource m) v index =
      s'.resolveInput (s'.outputSource m) v index := by
    unfold Workspace.resolveInput
    rw [h.producer, source]
  unfold Setting.input
  simp only [bound, resolved]

theorem inputName_eq (index : Nat) : s.inputName v index = s'.inputName v index := by
  unfold Setting.inputName
  rw [h.registry]

theorem writeBack_eq (index : Nat) : s.writeBack v index = s'.writeBack v index := by
  funext value
  unfold Setting.writeBack
  rw [h.producerVariable?_eq, h.variableName_eq]

theorem recordPrimary_eq : s.recordPrimary v = s'.recordPrimary v := by
  funext value
  unfold Setting.recordPrimary
  rw [h.registry]

theorem draw_eq : s.draw = s'.draw := by
  unfold Setting.draw
  rw [h.draws]

theorem send_eq : s.send = s'.send := by
  funext request
  unfold Setting.send
  rw [h.exchange]

/-- Executors do the same at the node, and take no node back. -/
theorem similar (entered : List NodeId) :
    s.Similar (Beyond (fun m : Machine => m.visited.visited) entered Eq) s' v v where
  props _ := by rw [h.props_eq]
  inputName := h.inputName_eq
  limit := h.limit
  log _ := alongside_of_eq entered rfl fun _ => rfl
  diagnose _ := alongside_of_eq entered rfl fun _ => rfl
  record _ _ := alongside_of_eq entered rfl fun _ => rfl
  recordPrimary value := by
    refine alongside_of_eq entered (by rw [h.recordPrimary_eq]) fun _ => ?_
    unfold Setting.recordPrimary
    split <;> rfl
  variableValue? _ := alongside_of_eq entered rfl fun _ => rfl
  setVariable _ _ := alongside_of_eq entered rfl fun _ => rfl
  input _ := by
    refine alongside_of_eq entered (h.input_eq _) fun m => ?_
    rw [Setting.input_run]
    change (s.withProducer v _ m).visited = _
    unfold Setting.withProducer
    split <;> rfl
  writeBack _ value := by
    refine alongside_of_eq entered (by rw [h.writeBack_eq]) fun _ => ?_
    unfold Setting.writeBack
    split <;> rfl
  draw := alongside_of_eq entered h.draw_eq fun _ => rfl
  send _ := alongside_of_eq entered (by rw [h.send_eq]) fun _ => rfl

end Setting.SameInputs

/-- What runs along an output does the same if the visits along it do. A round of a loop takes back
what it has entered, and nothing else. -/
theorem alongside_iterate {visit visit' : Node → RunM Unit} {port : Nat}
    (h : Alongside entered (s.branch visit v port) (s'.branch visit' v port)) :
    Alongside entered (s.iterate visit v port) (s'.iterate visit' v port) := by
  rintro m _ ⟨hm, rfl⟩
  have same := (h (m.logged [.iteration ⟨v.id, port⟩]) _ ⟨hm, rfl⟩).2.2
  rw [iterate_run, iterate_run, same]
  exact ⟨rfl, hm, rfl⟩

namespace Interpreter

variable {limit : Nat} {exchange : Http.Exchange} {draws : Draws} {graph graph' : Graph}

theorem alongside_execute (h : s.SameInputs s' v) {visit visit' : Node → RunM Unit}
    (hb : ∀ port, Alongside entered (s.branch visit v port) (s'.branch visit' v port)) :
    Alongside entered ((builtin limit exchange draws).execute s visit v)
      ((builtin limit exchange draws).execute s' visit' v) := by
  have similar := h.similar entered
  have executor : Alongside entered
      ((builtin limit exchange draws).executorOf v.kind s visit v).run
      ((builtin limit exchange draws).executorOf v.kind s' visit' v).run := by
    rw [executorOf_builtin]
    cases Kind.ofName? v.kind with
    | some kind => exact attempts_builtin similar (fun port => alongside_iterate (hb port)) kind
    | none => exact Attempts.throw _
  exact simulates_execute (alongside_of_eq entered rfl fun _ => rfl) (similar.log rfl)
    (simulates_attempt executor similar.diagnose)

/-- A graph that looks thinned from another is run as the other is. -/
theorem machine_eq_of_thinned (h : (Workspace.mk graph .builtin).Thinned ⟨graph', .builtin⟩) :
    (builtin limit exchange draws).machine graph = (builtin limit exchange draws).machine graph' := by
  let i := builtin limit exchange draws
  have thinned : (i.setting graph).toWorkspace.Thinned (i.setting graph').toWorkspace := h
  refine related_of_thinned (R := Eq) (governs limit exchange draws (i.setting graph))
    (fun _ _ => rfl) (fun _ => .of_eq rfl) thinned ?_
    (governs limit exchange draws (i.setting graph')) rfl rfl rfl
  intro visit visit' accords v hv entered
  have inputs : (i.setting graph).SameInputs (i.setting graph') v :=
    { thinned.inputs hv with limit := rfl, exchange := rfl, draws := rfl }
  exact alongside_execute inputs fun port => accords.visitFlow thinned hv (.follow port)

theorem run_eq_of_thinned (h : (Workspace.mk graph .builtin).Thinned ⟨graph', .builtin⟩) :
    (builtin limit exchange draws).run graph = (builtin limit exchange draws).run graph' := by
  unfold run
  rw [machine_eq_of_thinned h]

end Interpreter

end ScriptGraph.Script
