import ScriptGraph.Proofs.Graph.Renaming
import ScriptGraph.Proofs.Script.Simulation
import ScriptGraph.Proofs.Script.Traversal

/-! # Runs with kinds of the user's

An interpreter can be told to execute nodes of a kind of the user's like nodes of a built-in kind.
What happens in a run is then the same as if the nodes were of the built-in kind, as long as no
input is wired to a variable or a constant that goes by the user's kind: whoever reads an input
looks for the built-in names of these two.
-/

namespace ScriptGraph.Script

open Json (Value)

/-- What is left of an event outside of debug mode. Of a failure that is all but the kind of its
node. -/
def Event.shown? : Event → Option Event
  | .trace _ => none
  | .failure d => some (.failure { d with kind := "" })
  | e => some e

/-- Two states of runs that look the same outside of debug mode. -/
structure SameShown (m m' : Machine) : Prop where
  outputs : m.outputs = m'.outputs
  bindings : m.bindings = m'.bindings
  visited : m.visited = m'.visited
  drawn : m.drawn = m'.drawn
  sent : m.sent = m'.sent
  log : m.log.toList.filterMap Event.shown? = m'.log.toList.filterMap Event.shown?

namespace SameShown

variable {m m' : Machine} (h : SameShown m m')
include h

theorem logged {es es' : List Event}
    (he : es.filterMap Event.shown? = es'.filterMap Event.shown?) :
    SameShown (m.logged es) (m'.logged es') where
  outputs := h.outputs
  bindings := h.bindings
  visited := h.visited
  drawn := h.drawn
  sent := h.sent
  log := by
    rw [Machine.log_logged, Machine.log_logged, List.filterMap_append, List.filterMap_append,
      h.log, he]

theorem bound (name : String) (value : Value) :
    SameShown (m.bound name value) (m'.bound name value) := by
  have logged : SameShown (m.logged [.bind name value]) (m'.logged [.bind name value]) :=
    h.logged rfl
  refine ⟨logged.outputs, ?_, logged.visited, logged.drawn, logged.sent, logged.log⟩
  change m.bindings.insert name value = m'.bindings.insert name value
  rw [h.bindings]

theorem recorded (output : PortRef) (value : Value) :
    SameShown (m.recorded output value) (m'.recorded output value) := by
  have logged : SameShown (m.logged [.record output value]) (m'.logged [.record output value]) :=
    h.logged rfl
  refine ⟨?_, logged.bindings, logged.visited, logged.drawn, logged.sent, logged.log⟩
  change m.outputs.insert output value = m'.outputs.insert output value
  rw [h.outputs]

end SameShown

/-! ### Programs that look the same -/

theorem simulates_log {e e' : Event} (he : e.shown? = e'.shown?) :
    Simulates SameShown (log e) (log e') := by
  intro m m' h
  have single : [e].filterMap Event.shown? = [e'].filterMap Event.shown? := by
    simp only [List.filterMap_cons, he]
  rw [log_run, log_run]
  exact ⟨rfl, h.logged single⟩

theorem simulates_enter (id : NodeId) :
    Simulates SameShown (Interpreter.enter id) (Interpreter.enter id) := by
  intro m m' h
  change (m.visited.enter id).1 = (m'.visited.enter id).1 ∧
    SameShown { m with visited := (m.visited.enter id).2 }
      { m' with visited := (m'.visited.enter id).2 }
  rw [h.visited]
  exact ⟨rfl, ⟨h.outputs, h.bindings, rfl, h.drawn, h.sent, h.log⟩⟩

theorem simulates_variableValue? (name : String) :
    Simulates SameShown (variableValue? name) (variableValue? name) := by
  intro m m' h
  change m.bindings.get? name = m'.bindings.get? name ∧ SameShown m m'
  rw [h.bindings]
  exact ⟨rfl, h⟩

theorem simulates_setVariable (name : String) (value : Value) :
    Simulates SameShown (setVariable name value) (setVariable name value) := by
  intro m m' h
  rw [setVariable_run, setVariable_run]
  exact ⟨rfl, h.bound name value⟩

theorem simulates_record {v v' : Node} (hid : v.id = v'.id) (port : Nat) (value : Value) :
    Simulates SameShown (record v port value) (record v' port value) := by
  intro m m' h
  rw [record_run, record_run, hid]
  exact ⟨rfl, h.recorded _ value⟩

theorem simulates_diagnose {v v' : Node} (hid : v.id = v'.id) (fault : Fault) :
    Simulates SameShown (diagnose v fault) (diagnose v' fault) := by
  refine simulates_log ?_
  simp only [Event.shown?, hid]

section

variable {s s' : Setting}

theorem simulates_draw (hd : s.draws = s'.draws) : Simulates SameShown s.draw s'.draw := by
  intro m m' h
  change s.draws m.drawn = s'.draws m'.drawn ∧
    SameShown { m with drawn := m.drawn + 1 } { m' with drawn := m'.drawn + 1 }
  rw [hd, h.drawn]
  exact ⟨rfl, ⟨h.outputs, h.bindings, h.visited, rfl, h.sent, h.log⟩⟩

theorem simulates_send (he : s.exchange = s'.exchange) (request : Http.Request) :
    Simulates SameShown (s.send request) (s'.send request) := by
  intro m m' h
  have counted : SameShown { m with sent := m'.sent + 1 } { m' with sent := m'.sent + 1 } :=
    ⟨h.outputs, h.bindings, h.visited, h.drawn, rfl, h.log⟩
  rw [send_run, send_run, he, h.sent]
  exact ⟨rfl, counted.logged rfl⟩

end

/-! ### Executions that look the same -/

/-- Two runs look the same from related nodes. -/
structure Setting.Resembles (N : Node → Node → Prop) (s s' : Setting) : Prop extends
    s.toWorkspace.Resembles N s'.toWorkspace where
  limit : s.maxLoopIterations = s'.maxLoopIterations
  exchange : s.exchange = s'.exchange
  draws : s.draws = s'.draws

namespace Setting.Resembles

variable {N : Node → Node → Prop} {s s' : Setting} {v v' : Node} (h : s.Resembles N s')
  (hv : N v v')
include h hv

theorem props : (s.props v).Agree (s'.props v') :=
  h.properties hv

theorem variableName_eq : s.variableName v = s'.variableName v' :=
  (h.props hv).text_eq "name"

theorem initialValue_eq : s.initialValue v = s'.initialValue v' := by
  unfold Setting.initialValue
  dsimp only
  rw [(h.props hv).text_eq, (h.props hv).text_eq]

/-- Behind an input stands a variable in both graphs or in none. -/
theorem producerVariable?_rel {index : Nat} (hi : index ≠ 0) :
    Option.Rel N (s.producerVariable? v index) (s'.producerVariable? v' index) := by
  have found := h.producer hv hi
  unfold Setting.producerVariable?
  generalize s.producer? v index = source at found
  generalize s'.producer? v' index = source' at found
  cases found with
  | none => exact .none
  | @some p p' hp =>
    obtain ⟨hn, same | other, -⟩ := hp
    · dsimp only
      rw [← same] at hn ⊢
      split
      · exact .some hn
      · exact .none
    · have unread := other .var (by simp)
      simp only [unread.1, unread.2, if_false]
      exact .none

theorem withProducer {m m' : Machine} (hm : SameShown m m') {index : Nat} (hi : index ≠ 0) :
    SameShown (s.withProducer v index m) (s'.withProducer v' index m') := by
  have found := h.producerVariable?_rel hv hi
  unfold Setting.withProducer Setting.unbound?
  generalize s.producerVariable? v index = p at found
  generalize s'.producerVariable? v' index = p' at found
  cases found with
  | none => exact hm
  | @some p p' hp =>
    dsimp only
    rw [h.variableName_eq hp, hm.bindings]
    by_cases hb : s'.variableName p' ≠ "" ∧ (m'.bindings.get? (s'.variableName p')).isNone
    · simp only [if_pos hb]
      rw [h.variableName_eq hp, h.initialValue_eq hp]
      exact hm.bound _ _
    · simp only [if_neg hb]
      exact hm

/-- The same flows into an input of two nodes. -/
theorem resolveInput_eq {m m' : Machine} (hm : SameShown m m') {index : Nat} (hi : index ≠ 0) :
    s.resolveInput (s.outputSource m) v index = s'.resolveInput (s'.outputSource m') v' index := by
  have found := h.producer hv hi
  unfold Workspace.resolveInput
  generalize s.producer? v index = source at found
  generalize s'.producer? v' index = source' at found
  cases found with
  | none => rfl
  | @some p p' hp =>
    obtain ⟨hn, read, output⟩ := hp
    have recorded : m.outputs.get? ⟨p.1.id, p.2⟩ = m'.outputs.get? ⟨p'.1.id, p'.2⟩ := by
      rw [hm.outputs, h.id hn, output]
    rcases read with same | other
    · have reference : m.bindings.get? (s.variableName p.1) =
          m'.bindings.get? (s'.variableName p'.1) := by
        rw [hm.bindings, h.variableName_eq hn]
      have literal : (s.outputSource m).literalDefault p.1 =
          (s'.outputSource m').literalDefault p'.1 := by
        unfold Setting.outputSource
        dsimp only
        rw [(h.props hn).text_eq, (h.props hn).text_eq, same]
      change (if p.1.kind = _ then m.bindings.get? (s.variableName p.1) else
          (m.outputs.get? ⟨p.1.id, p.2⟩).or ((s.outputSource m).literalDefault p.1)) =
        (if p'.1.kind = _ then m'.bindings.get? (s'.variableName p'.1) else
          (m'.outputs.get? ⟨p'.1.id, p'.2⟩).or ((s'.outputSource m').literalDefault p'.1))
      rw [reference, recorded, literal, same]
    · have unreferenced := other .var (by simp)
      have unspelled := other .constant (by simp)
      simp only [Setting.outputSource, unreferenced.1, unreferenced.2, unspelled.1, unspelled.2,
        if_false]
      exact congrArg (·.or none) recorded

theorem recordPrimary (value : Value) :
    Simulates SameShown (s.recordPrimary v value) (s'.recordPrimary v' value) := by
  unfold Setting.recordPrimary
  rw [h.ports hv]
  cases (s'.registry.portsOf? v').bind (·.primaryOutput?) with
  | none => exact .pure ()
  | some port => exact simulates_record (h.id hv) port value

theorem writeBack {index : Nat} (hi : index ≠ 0) (value : Value) :
    Simulates SameShown (s.writeBack v index value) (s'.writeBack v' index value) := by
  have found := h.producerVariable?_rel hv hi
  unfold Setting.writeBack
  generalize s.producerVariable? v index = p at found
  generalize s'.producerVariable? v' index = p' at found
  cases found with
  | none => exact .pure ()
  | some hp =>
    dsimp only
    rw [h.variableName_eq hp]
    exact simulates_setVariable _ value

/-- Executors do alike at related nodes. -/
theorem similar : s.Similar SameShown s' v v' where
  props := h.props hv
  inputName index := by
    unfold Setting.inputName
    rw [h.ports hv]
  limit := h.limit
  log _ := simulates_log rfl
  diagnose := simulates_diagnose (h.id hv)
  record := simulates_record (h.id hv)
  recordPrimary := h.recordPrimary hv
  variableValue? := simulates_variableValue?
  setVariable := simulates_setVariable
  input hi := by
    intro m m' hm
    have bound := h.withProducer hv hm hi
    rw [input_run, input_run, h.resolveInput_eq hv bound hi]
    exact ⟨rfl, bound⟩
  writeBack := h.writeBack hv
  draw := simulates_draw h.draws
  send := simulates_send h.exchange

theorem iterate {visit visit' : Node → RunM Unit}
    (hvisit : ∀ u u', N u u' → Simulates SameShown (visit u) (visit' u')) (port : Nat) :
    Simulates SameShown (s.iterate visit v port) (s'.iterate visit' v' port) := by
  intro m m' hm
  have begun : SameShown (m.logged [.iteration ⟨v.id, port⟩])
      (m'.logged [.iteration ⟨v'.id, port⟩]) :=
    hm.logged (by rw [h.id hv])
  have branch : Simulates SameShown (s.branch visit v port) (s'.branch visit' v' port) :=
    .forM₂ (h.successors hv (some port)) hvisit
  obtain ⟨-, ended⟩ := branch _ _ begun
  rw [iterate_run, iterate_run, hm.visited]
  exact ⟨rfl, ⟨ended.outputs, ended.bindings, rfl, ended.drawn, ended.sent, ended.log⟩⟩

/-- Executions of related nodes look the same if the same executor is chosen for them. -/
theorem execute {i i' : Interpreter} {visit visit' : Node → RunM Unit}
    (hx : Attempts SameShown (i.executorOf v.kind s visit v)
      (i'.executorOf v'.kind s' visit' v')) :
    Simulates SameShown (i.execute s visit v) (i'.execute s' visit' v') :=
  Interpreter.simulates_execute (simulates_log (by rw [h.id hv])) (simulates_log rfl)
    (simulates_attempt hx (simulates_diagnose (h.id hv)))

end Setting.Resembles

/-! ### Runs -/

namespace Interpreter

variable {kind : Kind} {user : String} {g g' : Graph} {limit : Nat} {exchange : Http.Exchange}
  {draws : Draws} {v v' : Node}

/-- The interpreter that executes nodes of the user's kind like those of a built-in kind. -/
abbrev mapped (user : String) (kind : Kind) (limit : Nat) (exchange : Http.Exchange)
    (draws : Draws) : Interpreter :=
  (builtin limit exchange draws).mapKind user kind.name

theorem resembles (hu : Kind.ofName? user = none) (h : g.Renames kind.name user g')
    (hr : g.ReadAlike kind g') :
    ((builtin limit exchange draws).setting g).Resembles (Node.Renamed kind.name user)
      ((mapped user kind limit exchange draws).setting g') where
  toResembles := Graph.Renames.resembles h hu hr
  limit := rfl
  exchange := rfl
  draws := rfl

theorem executorOf_mapped (text : String) :
    (mapped user kind limit exchange draws).executorOf text =
      if text = user then Execute.builtin kind
      else (builtin limit exchange draws).executorOf text := by
  unfold executorOf mapped mapKind
  rw [Kind.ofName?_name]
  dsimp only
  rw [Table.get?_insert]
  by_cases ht : text = user
  · simp only [if_pos ht]
  · simp only [if_neg ht]

/-- Nodes of the user's kind are executed like those of the built-in kind. -/
theorem attempts_executorOf (hu : Kind.ofName? user = none) (h : g.Renames kind.name user g')
    (hr : g.ReadAlike kind g') (hv : v.Renamed kind.name user v')
    {visit visit' : Node → RunM Unit}
    (hvisit : ∀ u u', u.Renamed kind.name user u' →
      Simulates SameShown (visit u) (visit' u')) :
    Attempts SameShown
      ((builtin limit exchange draws).executorOf v.kind
        ((builtin limit exchange draws).setting g) visit v)
      ((mapped user kind limit exchange draws).executorOf v'.kind
        ((mapped user kind limit exchange draws).setting g') visit' v') := by
  have alike : ((builtin limit exchange draws).setting g).Resembles (Node.Renamed kind.name user)
      ((mapped user kind limit exchange draws).setting g') := resembles hu h hr
  have executed (own : Kind) := attempts_builtin (alike.similar hv) (alike.iterate hv hvisit) own
  rw [executorOf_mapped, executorOf_builtin]
  cases hv with
  | kept hn =>
    rw [if_neg hn, executorOf_builtin]
    cases Kind.ofName? v.kind with
    | some own => exact executed own
    | none => exact .throw _
  | renamed hk =>
    rw [if_pos rfl, hk, Kind.ofName?_name]
    exact executed kind

/-- What a run looks like outside of debug mode does not depend on whether nodes go by the user's
kind. -/
theorem sameShown_machine (limit : Nat) (exchange : Http.Exchange) (draws : Draws)
    (hu : Kind.ofName? user = none) (h : g.Renames kind.name user g')
    (hr : g.ReadAlike kind g') :
    SameShown ((builtin limit exchange draws).machine g)
      ((mapped user kind limit exchange draws).machine g') := by
  let i := builtin limit exchange draws
  let i' := mapped user kind limit exchange draws
  have alike : (i.setting g).Resembles (Node.Renamed kind.name user) (i'.setting g') :=
    resembles hu h hr
  have visited (v v' : Node) (hv : v.Renamed kind.name user v') :
      Simulates SameShown (i.visit g v) (i'.visit g' v') := by
    unfold Interpreter.visit
    rw [h.size_eq]
    refine .walk₂ (fun _ _ port hu => alike.successors hu port) ?_ ?_ _ v v' hv
    · intro u u' hn
      rw [hn.id_eq]
      exact simulates_enter _
    · intro visit visit' hvisit u u' hn
      exact alike.execute hn (attempts_executorOf hu h hr hn hvisit)
  have pass : Simulates SameShown ((i.setting g).entryNodes.forM (i.visit g))
      ((i'.setting g').entryNodes.forM (i'.visit g')) :=
    .forM₂ h.entryNodes_rel visited
  exact (pass {} {} ⟨rfl, rfl, rfl, rfl, rfl, rfl⟩).2

end Interpreter

/-- Two runs look the same to a user outside of debug mode. -/
structure Run.SameReport (r r' : Run) : Prop where
  visited : r.visited = r'.visited
  console : r.console false = r'.console false
  diagnostics : r.diagnostics.map (fun d => (d.node, d.fault.message)) =
    r'.diagnostics.map fun d => (d.node, d.fault.message)

theorem SameShown.sameReport {m m' : Machine} (h : SameShown m m') :
    Run.SameReport ⟨m.log.toList⟩ ⟨m'.log.toList⟩ := by
  -- Whatever is told from events can be told from what is left of them.
  have told {α : Type} (f : Event → Option α) (hf : ∀ e, e.shown?.bind f = f e) :
      m.log.toList.filterMap f = m'.log.toList.filterMap f := by
    have left := congrArg (List.filterMap f) h.log
    rw [List.filterMap_filterMap, List.filterMap_filterMap] at left
    simpa only [hf] using left
  refine ⟨told _ ?_, told _ ?_, ?_⟩
  · intro e
    cases e <;> rfl
  · intro e
    cases e <;> rfl
  · unfold Run.diagnostics
    rw [List.map_filterMap, List.map_filterMap]
    apply told
    intro e
    cases e <;> rfl

/-- Some nodes of a built-in kind may go by a kind of the user's that is executed like it. Outside
of debug mode a run stays the same, if the kind is neither that of variables nor that of constants,
or if all nodes that are wired to inputs keep their kinds. -/
theorem sameReport_of_renames (limit : Nat) (exchange : Http.Exchange) (draws : Draws)
    {kind : Kind} {user : String} {g g' : Graph} (hu : Kind.ofName? user = none)
    (h : g.Renames kind.name user g') (hr : g.ReadAlike kind g') :
    ((builtin limit exchange draws).run g).SameReport
      (((builtin limit exchange draws).mapKind user kind.name).run g') :=
  (Interpreter.sameShown_machine limit exchange draws hu h hr).sameReport

/-- The nodes of a graph that stores a constant in a variable and shows the variable. The node that
stores may be of any kind. -/
def storingNodes (kind : String) : List Node :=
  [{ id := .ofNat 1, kind := Kind.onStart.name },
    { id := .ofNat 2, kind, properties := [("name", .string "x")] },
    { id := .ofNat 3, kind := Kind.log.name },
    { id := .ofNat 4, kind := Kind.var.name, properties := [("name", .string "x")] },
    { id := .ofNat 5, kind := Kind.constant.name, properties := [("value", .string "a")] }]

def storing (kind : String) : Graph :=
  .ofLists (storingNodes kind)
    [.between (.ofNat 1) 0 (.ofNat 2) 0, .between (.ofNat 2) 0 (.ofNat 3) 0,
      .between (.ofNat 5) 0 (.ofNat 2) 1, .between (.ofNat 4) 1 (.ofNat 3) 1]

theorem storing_renames :
    (storing Kind.var.name).Renames Kind.var.name "Store" (storing "Store") where
  nodes := .cons (.kept (by decide)) <| .cons (.renamed rfl) <| .cons (.kept (by decide)) <|
    .cons (.kept (by decide)) <| .cons (.kept (by decide)) .nil
  edges := rfl

theorem storing_readAlike : (storing Kind.var.name).ReadAlike .var (storing "Store") := by
  refine .inr fun e he hport => ?_
  rw [Graph.findNode_eq_find?, Graph.findNode_eq_find?]
  change e ∈ [_, _, _, _] at he
  simp only [List.mem_cons, List.not_mem_nil, or_false] at he
  rcases he with rfl | rfl | rfl | rfl
  · exact absurd rfl hport
  · exact absurd rfl hport
  · rfl
  · rfl

/-- A variable may be stored by a node of the user's kind if another node of it is read. -/
theorem storing_sameReport :
    Kind.ofName? "Store" = none ∧
      (storing Kind.var.name).Renames Kind.var.name "Store" (storing "Store") ∧
      (storing Kind.var.name).ReadAlike .var (storing "Store") ∧
      ((builtin 1 .unreachable (.ofSeed 0)).run (storing Kind.var.name)).SameReport
        (((builtin 1 .unreachable (.ofSeed 0)).mapKind "Store" Kind.var.name).run
          (storing "Store")) ∧
      (((builtin 1 .unreachable (.ofSeed 0)).mapKind "Store" Kind.var.name).run
        (storing "Store")).console false = [⟨.log, "a"⟩] := by
  have new : Kind.ofName? "Store" = none := by decide
  exact ⟨new, storing_renames, storing_readAlike,
    sameReport_of_renames 1 .unreachable (.ofSeed 0) new storing_renames storing_readAlike,
    by decide +kernel⟩

/-- The nodes of a graph that shows a value. One of them may be of any kind. -/
def shownNodes (kind : String) : List Node :=
  [{ id := .ofNat 1, kind := Kind.onStart.name }, { id := .ofNat 2, kind := Kind.log.name },
    { id := .ofNat 3, kind, properties := [("value", .string "a")] }]

def shownEdges : List Edge :=
  [.between (.ofNat 1) 0 (.ofNat 2) 0, .between (.ofNat 3) 0 (.ofNat 2) 1]

/-- A graph that shows a constant, and the same with the constant under a kind of the user's. -/
theorem shownNodes_renames (user : String) (hn : ∀ kind ∈ [Kind.onStart, .log], kind.name ≠ user) :
    (Graph.ofLists (shownNodes Kind.constant.name) shownEdges).Renames Kind.constant.name user
      (.ofLists (shownNodes user) shownEdges) where
  nodes := .cons (.kept (hn .onStart (by simp))) <| .cons (.kept (hn .log (by simp))) <|
    .cons (.renamed rfl) .nil
  edges := rfl

/-- A constant that goes by a kind of the user's is not found by the node that reads it. -/
theorem constant_lost :
    ¬ ∀ (limit : Nat) (exchange : Http.Exchange) (draws : Draws) (kind : Kind) (user : String)
      (g g' : Graph), Kind.ofName? user = none → g.Renames kind.name user g' →
        ((builtin limit exchange draws).run g).SameReport
          (((builtin limit exchange draws).mapKind user kind.name).run g') := by
  intro h
  have same := (h 1 .unreachable (.ofSeed 0) .constant "Literal" _ _ (by decide)
    (shownNodes_renames "Literal" (by decide))).console
  revert same
  decide +kernel

end ScriptGraph.Script
