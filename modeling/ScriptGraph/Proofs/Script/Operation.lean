import ScriptGraph.Proofs.Kind.Results
import ScriptGraph.Proofs.Walk.Program
import ScriptGraph.Script.Interpreter

/-! # Operations of executors

Whatever an executor does by itself is a sequence of few operations: it tells how things go, gives
values to variables that have a name, draws, sends, and records values on outputs of its node.
-/

namespace ScriptGraph.Script

open Json (Value)

/-- The event begins no node and no iteration, changes no value and reports no failure. -/
def Event.isQuiet : Event → Bool
  | .node _ | .iteration _ | .record _ _ | .bind _ _ | .failure _ => false
  | _ => true

/-- The state with more in its log, and the lines that show it on the console. -/
def Machine.logged (m : Machine) (es : List Event) : Machine :=
  { m with
    log := m.log ++ es.toArray
    console := m.console ++ (es.filterMap (·.line? m.debug)).toArray }

@[simp] theorem Machine.log_logged (m : Machine) (es : List Event) :
    (m.logged es).log.toList = m.log.toList ++ es := by
  simp [logged]

theorem Machine.logged_nil (m : Machine) : m.logged [] = m := by
  simp [logged]

theorem Machine.logged_append (m : Machine) (es es' : List Event) :
    m.logged (es ++ es') = (m.logged es).logged es' := by
  simp [logged, Array.append_assoc]

theorem log_run (e : Event) (m : Machine) : (log e).run m = ((), m.logged [e]) := by
  have shown : (e.line? m.debug).toArray = ([e].filterMap (·.line? m.debug)).toArray := by
    rw [List.filterMap_cons]
    cases e.line? m.debug <;> rfl
  change ((), { m with log := m.log.push e, console := m.console ++ (e.line? m.debug).toArray }) = _
  rw [shown, Array.push_eq_append]
  rfl

/-- The state in which a variable has been given a value. -/
def Machine.bound (m : Machine) (name : String) (value : Value) : Machine :=
  { m.logged [.bind name value] with bindings := m.bindings.insert name value }

/-- The state in which a value has been recorded. -/
def Machine.recorded (m : Machine) (output : PortRef) (value : Value) : Machine :=
  { m.logged [.record output value] with outputs := m.outputs.insert output value }

theorem setVariable_run (name : String) (value : Value) (m : Machine) :
    (setVariable name value).run m = ((), m.bound name value) := by
  unfold setVariable
  rw [StateT.run_bind, log_run]
  rfl

theorem diagnose_run (v : Node) (fault : Fault) (m : Machine) :
    (diagnose v fault).run m = ((), m.logged [.failure ⟨v.id, v.kind, fault⟩]) :=
  log_run _ m

theorem record_run (v : Node) (port : Nat) (value : Value) (m : Machine) :
    (record v port value).run m = ((), m.recorded ⟨v.id, port⟩ value) := by
  unfold record
  rw [StateT.run_bind, log_run]
  rfl

theorem recordPrimary_run (s : Setting) (v : Node) (value : Value) (m : Machine) :
    (s.recordPrimary v value).run m =
      ((), (s.primary? v).elim m fun port => m.recorded ⟨v.id, port⟩ value) := by
  unfold Setting.recordPrimary Workspace.primary?
  cases (s.registry.portsOf? v).bind (·.primaryOutput?) with
  | none => rfl
  | some port => exact record_run v port value m

theorem send_run (s : Setting) (request : Http.Request) (m : Machine) :
    (s.send request).run m = (s.exchange m.sent request,
      Machine.logged { m with sent := m.sent + 1 }
        [.request request (s.exchange m.sent request)]) := by
  change (log (.request request (s.exchange m.sent request)) >>= fun _ =>
    pure (s.exchange m.sent request)).run { m with sent := m.sent + 1 } = _
  rw [StateT.run_bind, log_run]
  rfl

/-- Variables without a name have no value. -/
def Machine.Nameless (m : Machine) : Prop :=
  m.bindings.get? "" = none

theorem Machine.Nameless.bound {m : Machine} (h : m.Nameless) {name : String} (hn : name ≠ "")
    (value : Value) : (m.bound name value).Nameless :=
  (Table.get?_insert_of_ne _ _ (Ne.symm hn)).trans h

namespace Setting

variable (s : Setting)

/-- The variable behind an input that is still to be given a value. -/
def unbound? (m : Machine) (v : Node) (index : Nat) : Option Node :=
  match s.producerVariable? v index with
  | none => none
  | some producer =>
    if s.variableName producer ≠ "" ∧ (m.bindings.get? (s.variableName producer)).isNone then
      some producer
    else none

/-- The state after the variable behind an input has been given a value. -/
def withProducer (v : Node) (index : Nat) (m : Machine) : Machine :=
  match s.unbound? m v index with
  | none => m
  | some producer => m.bound (s.variableName producer) (s.initialValue producer)

@[simp] theorem outputs_withProducer (v : Node) (index : Nat) (m : Machine) :
    (s.withProducer v index m).outputs = m.outputs := by
  unfold withProducer
  split <;> rfl

theorem producer?_of_producerVariable? {index : Nat} {u : Node}
    (h : s.producerVariable? v index = some u) :
    u.kind = Kind.var.name ∧ ∃ output, s.producer? v index = some (u, output) := by
  unfold producerVariable? at h
  split at h
  next producer output hp =>
    rw [Option.ite_none_right_eq_some] at h
    obtain ⟨hk, he⟩ := h
    obtain rfl := Option.some.inj he
    exact ⟨hk, output, hp⟩
  next => cases h

theorem withProducer_of_unwired {index : Nat} (h : s.producerVariable? v index = none)
    (m : Machine) : s.withProducer v index m = m := by
  simp [withProducer, unbound?, h]

theorem withProducer_of_bound {index : Nat} {u : Node} {value : Value}
    (h : s.producerVariable? v index = some u)
    (hb : m.bindings.get? (s.variableName u) = some value) : s.withProducer v index m = m := by
  simp [withProducer, unbound?, h, hb]

theorem of_unbound? {m : Machine} {v : Node} {index : Nat} {producer : Node}
    (h : s.unbound? m v index = some producer) :
    s.producerVariable? v index = some producer ∧ s.variableName producer ≠ "" ∧
      m.bindings.get? (s.variableName producer) = none := by
  unfold unbound? at h
  split at h
  next => cases h
  next other hp =>
    rw [Option.ite_none_right_eq_some] at h
    obtain ⟨⟨hn, unbound⟩, he⟩ := h
    obtain rfl := Option.some.inj he
    exact ⟨hp, hn, Option.isNone_iff_eq_none.mp unbound⟩

theorem nonEmpty_of_unbound? {m : Machine} {v : Node} {index : Nat} {producer : Node}
    (h : s.unbound? m v index = some producer) : s.variableName producer ≠ "" :=
  (s.of_unbound? h).2.1

theorem bindProducer_run (v : Node) (index : Nat) (m : Machine) :
    (s.bindProducer v index).run m = ((), s.withProducer v index m) := by
  unfold bindProducer withProducer unbound?
  cases s.producerVariable? v index with
  | none => rfl
  | some producer =>
    change StateT.run (if s.variableName producer ≠ "" ∧
      (m.bindings.get? (s.variableName producer)).isNone then
        setVariable (s.variableName producer) (s.initialValue producer) else pure ()) m = _
    by_cases h : s.variableName producer ≠ "" ∧
        (m.bindings.get? (s.variableName producer)).isNone
    · simp only [if_pos h]
      exact setVariable_run ..
    · simp only [if_neg h]
      rfl

theorem input_run (v : Node) (index : Nat) (m : Machine) :
    (s.input v index).run m =
      (s.resolveInput (s.outputSource (s.withProducer v index m)) v index,
        s.withProducer v index m) := by
  unfold input
  rw [StateT.run_bind, bindProducer_run]
  rfl

theorem requireInput_of_some {m m₁ : Machine} {v : Node} {index : Nat} {value : Value}
    (h : (s.input v index).run m = (some value, m₁)) :
    (s.requireInput v index).run.run m = (.ok value, m₁) := by
  unfold requireInput
  rw [run_lift_bind h]
  rfl

theorem requireInput_of_none {m m₁ : Machine} {v : Node} {index : Nat}
    (h : (s.input v index).run m = (none, m₁)) :
    (s.requireInput v index).run.run m = (.error (.missingInput (s.inputName v index)), m₁) := by
  unfold requireInput
  rw [run_lift_bind h]
  rfl

/-- Whether an input gives a value. -/
theorem isSome_input {m : Machine} (h : m.Nameless) (v : Node) (index : Nat) :
    (s.resolveInput (s.outputSource (s.withProducer v index m)) v index).isSome =
      s.offers m.outputs.contains v index := by
  unfold Workspace.resolveInput Workspace.offers
  cases hp : s.producer? v index with
  | none => rfl
  | some source =>
    obtain ⟨producer, output⟩ := source
    by_cases hv : producer.kind = Kind.var.name
    · have hpv : s.producerVariable? v index = some producer := by
        simp [producerVariable?, hp, hv]
      simp only [hv, if_true, outputSource]
      change (Table.get? _ (s.variableName producer)).isSome = decide (s.variableName producer ≠ "")
      unfold withProducer unbound?
      simp only [hpv]
      by_cases hn : s.variableName producer = ""
      · simp only [hn, ne_eq, not_true_eq_false, false_and, if_false, decide_false]
        exact congrArg Option.isSome h
      · cases hb : m.bindings.get? (s.variableName producer) <;>
          simp [hn, hb, Machine.bound]
    · have same : s.withProducer v index m = m := by
        simp [withProducer, unbound?, producerVariable?, hp, hv]
      rw [same]
      simp only [hv, if_false, outputSource, Option.isSome_or, Table.contains]
      by_cases hc : producer.kind = Kind.constant.name <;> simp [hc]

/-- A variable that offers its value has a name. -/
theorem named_of_offers {has : PortRef → Bool} {v : Node} {index : Nat} (ho : s.offers has v index)
    {producer : Node} (hp : s.producerVariable? v index = some producer) :
    s.variableName producer ≠ "" := by
  obtain ⟨hk, output, hs⟩ := s.producer?_of_producerVariable? hp
  simpa [Workspace.offers, hs, hk, variableName, props] using ho

end Setting

/-- One thing that an executor does at a node that may record on certain outputs, and may report
its failure. -/
inductive Operation (v : Node) (ports : List Nat) (reports : Bool) : Machine → Machine → Prop where
  | tell (m : Machine) {e : Event} : e.isQuiet → Operation v ports reports m (m.logged [e])
  | bind (m : Machine) {name : String} (value : Value) : name ≠ "" →
      Operation v ports reports m (m.bound name value)
  | draw (m : Machine) : Operation v ports reports m { m with drawn := m.drawn + 1 }
  | send (m : Machine) : Operation v ports reports m { m with sent := m.sent + 1 }
  | record (m : Machine) {port : Nat} (value : Value) : port ∈ ports →
      Operation v ports reports m (m.recorded ⟨v.id, port⟩ value)
  | report (m : Machine) (fault : Fault) : reports →
      Operation v ports reports m (m.logged [.failure ⟨v.id, v.kind, fault⟩])

/-- What an executor does by itself at a node. -/
abbrev Own (v : Node) (ports : List Nat) : Machine → Machine → Prop :=
  Relation.ReflTransGen (Operation v ports true)

/-- What an executor does before it records a result or fails. -/
abbrev Prepares (v : Node) : Machine → Machine → Prop :=
  Relation.ReflTransGen (Operation v [] false)

/-! ### What operations change -/

/-- The event may come from one thing that an executor does. -/
inductive Event.IsOwn (v : Node) (ports : List Nat) (reports : Bool) : Event → Prop where
  | quiet {e : Event} : e.isQuiet → e.IsOwn v ports reports
  | bind (name : String) (value : Value) : (Event.bind name value).IsOwn v ports reports
  | record {port : Nat} (value : Value) : port ∈ ports →
      (Event.record ⟨v.id, port⟩ value).IsOwn v ports reports
  | report (fault : Fault) : reports → (Event.failure ⟨v.id, v.kind, fault⟩).IsOwn v ports reports

/-- The nodes that events begin, in their order. -/
def nodesOf (es : List Event) : List NodeId :=
  es.filterMap fun
    | .node id => some id
    | _ => none

/-- The nodes that have been executed, in their order. -/
def Machine.executed (m : Machine) : List NodeId :=
  nodesOf m.log.toList

/-- Whatever an executor does by itself, it begins no other node. -/
theorem Event.IsOwn.nodesOf_eq {v : Node} {ports : List Nat} {reports : Bool} {es : List Event}
    (h : ∀ e ∈ es, e.IsOwn v ports reports) : nodesOf es = [] := by
  refine List.filterMap_eq_nil_iff.mpr fun e he => ?_
  cases h e he with
  | quiet hq => cases e <;> first | rfl | cases hq
  | _ => rfl

theorem nodesOf_append (es es' : List Event) : nodesOf (es ++ es') = nodesOf es ++ nodesOf es' :=
  List.filterMap_append

theorem Machine.executed_logged (m : Machine) (es : List Event) :
    (m.logged es).executed = m.executed ++ nodesOf es := by
  rw [executed, log_logged, nodesOf_append, executed]

theorem nodesOf_quiet {e : Event} (h : e.isQuiet) : nodesOf [e] = [] := by
  cases e <;> first | rfl | cases h

theorem Machine.executed_logged_of_silent (m : Machine) {e : Event} (h : nodesOf [e] = []) :
    (m.logged [e]).executed = m.executed := by
  rw [executed_logged, h, List.append_nil]

namespace Operation

variable {v : Node} {ports : List Nat} {reports : Bool} {m m' : Machine}

theorem mono {ports' : List Nat} (h : Operation v ports reports m m') (hp : ports ⊆ ports') :
    Operation v ports' true m m' := by
  cases h with
  | tell he => exact .tell m he
  | bind value hn => exact .bind m value hn
  | draw => exact .draw m
  | send => exact .send m
  | record value h => exact .record m value (hp h)
  | report fault => exact .report m fault rfl

theorem visited_eq (h : Operation v ports reports m m') : m'.visited = m.visited := by
  cases h <;> rfl

theorem log_eq (h : Operation v ports reports m m') :
    ∃ es, m'.log.toList = m.log.toList ++ es ∧ ∀ e ∈ es, Event.IsOwn v ports reports e := by
  have one {e : Event} (he : e.IsOwn v ports reports) : ∀ e' ∈ [e], e'.IsOwn v ports reports :=
    fun _ h => by rwa [List.mem_singleton.mp h]
  cases h with
  | tell he => exact ⟨_, m.log_logged _, one (.quiet he)⟩
  | bind value => exact ⟨_, m.log_logged _, one (.bind _ value)⟩
  | draw => exact ⟨[], by simp, by simp⟩
  | send => exact ⟨[], by simp, by simp⟩
  | record value hp => exact ⟨_, m.log_logged _, one (.record value hp)⟩
  | report fault hr => exact ⟨_, m.log_logged _, one (.report fault hr)⟩

theorem nameless (h : Operation v ports reports m m') (hm : m.Nameless) : m'.Nameless := by
  cases h with
  | bind value hn => exact hm.bound hn value
  | _ => exact hm

/-- Nothing is recorded but on the outputs of the node that it may record on. -/
theorem contains_outputs (h : Operation v ports reports m m') {output : PortRef}
    (ho : m'.outputs.contains output) :
    m.outputs.contains output ∨ ∃ port ∈ ports, output = ⟨v.id, port⟩ := by
  cases h with
  | @record port value hp =>
    change (m.outputs.insert ⟨v.id, port⟩ value).contains output at ho
    unfold Table.contains at ho
    rw [Table.get?_insert] at ho
    split at ho
    next he => exact .inr ⟨port, hp, he⟩
    next => exact .inl ho
  | _ => exact .inl ho

/-- An executor may as well record on some outputs as on none. -/
theorem steps_own (h : Relation.ReflTransGen (Operation v [] reports) m m') : Own v ports m m' :=
  Relation.ReflTransGen.mono (fun _ _ step => step.mono (List.nil_subset ports)) _ _ h

theorem steps_log_eq (h : Relation.ReflTransGen (Operation v ports reports) m m') :
    ∃ es, m'.log.toList = m.log.toList ++ es ∧ ∀ e ∈ es, Event.IsOwn v ports reports e := by
  induction h with
  | refl => exact ⟨[], by simp, by simp⟩
  | tail _ h ih =>
    obtain ⟨es, he, hes⟩ := ih
    obtain ⟨es', he', hes'⟩ := h.log_eq
    refine ⟨es ++ es', by rw [he', he, List.append_assoc], fun e h => ?_⟩
    exact (List.mem_append.mp h).elim (hes e) (hes' e)

end Operation

namespace Own

variable {v : Node} {ports : List Nat} {m m' : Machine}

theorem visited_eq (h : Own v ports m m') : m'.visited = m.visited := by
  induction h with
  | refl => rfl
  | tail _ h ih => rw [h.visited_eq, ih]

theorem executed_eq (h : Own v ports m m') : m'.executed = m.executed := by
  obtain ⟨es, he, hes⟩ := Operation.steps_log_eq h
  rw [Machine.executed, he, nodesOf_append, Event.IsOwn.nodesOf_eq hes, List.append_nil,
    Machine.executed]

theorem nameless (h : Own v ports m m') (hm : m.Nameless) : m'.Nameless := by
  induction h with
  | refl => exact hm
  | tail _ h ih => exact h.nameless ih

theorem contains_outputs (h : Own v ports m m') {output : PortRef}
    (ho : m'.outputs.contains output) :
    m.outputs.contains output ∨ ∃ port ∈ ports, output = ⟨v.id, port⟩ := by
  induction h with
  | refl => exact .inl ho
  | tail _ h ih => exact (h.contains_outputs ho).elim ih .inr

end Own

/-! ### Programs of operations -/

/-- What has been recorded, and that only variables with a name have values. -/
def Knows (outputs : Table PortRef Value) (m : Machine) : Prop :=
  m.outputs = outputs ∧ m.Nameless

section

variable {s : Setting} {v : Node} {ports : List Nat} {reports : Bool}
  {outputs : Table PortRef Value}

theorem takes_tell {P : Machine → Prop} {e : Event} (he : e.isQuiet) :
    Takes (Operation v ports reports) P (log e) fun _ _ => True := by
  refine .single fun m _ => ?_
  rw [log_run]
  exact ⟨.tell m he, trivial⟩

theorem takes_diagnose {P : Machine → Prop} (fault : Fault) :
    Takes (Operation v ports true) P (diagnose v fault) fun _ _ => True := by
  refine .single fun m _ => ?_
  rw [diagnose_run]
  exact ⟨.report m fault rfl, trivial⟩

theorem takes_log {e : Event} (he : e.isQuiet) :
    Takes (Operation v ports reports) (Knows outputs) (log e) fun _ => Knows outputs := by
  refine .single fun m hm => ?_
  rw [log_run]
  exact ⟨.tell m he, hm⟩

theorem takes_trace (text : String) :
    Takes (Operation v ports reports) (Knows outputs) (trace text) fun _ => Knows outputs :=
  takes_log rfl

theorem takes_setVariable {name : String} (hn : name ≠ "") (value : Value) :
    Takes (Operation v ports reports) (Knows outputs) (setVariable name value) fun _ =>
      Knows outputs := by
  refine .single fun m hm => ?_
  rw [setVariable_run]
  exact ⟨.bind m value hn, hm.1, hm.2.bound hn value⟩

theorem operations_withProducer (m : Machine) (index : Nat) :
    Relation.ReflTransGen (Operation v ports reports) m (s.withProducer v index m) := by
  unfold Setting.withProducer
  split
  next => exact .refl
  next producer hp => exact .single (.bind m _ (s.nonEmpty_of_unbound? hp))

theorem Knows.withProducer {m : Machine} (hm : Knows outputs m) (v : Node) (index : Nat) :
    Knows outputs (s.withProducer v index m) := by
  unfold Setting.withProducer
  split
  next => exact hm
  next producer hp => exact ⟨hm.1, hm.2.bound (s.nonEmpty_of_unbound? hp) _⟩

theorem takes_input (index : Nat) :
    Takes (Operation v ports reports) (Knows outputs) (s.input v index) fun value m =>
      value.isSome = s.offers outputs.contains v index ∧ Knows outputs m := by
  intro m hm
  rw [Setting.input_run]
  refine ⟨operations_withProducer m index, ?_, hm.withProducer v index⟩
  rw [← hm.1]
  exact s.isSome_input hm.2 v index

theorem tries_requireInput (index : Nat) :
    Tries (Operation v ports reports) (Knows outputs) (s.requireInput v index) fun _ m =>
      s.offers outputs.contains v index ∧ Knows outputs m := by
  unfold Setting.requireInput
  refine .bind (.lift (takes_input index)) fun value => ?_
  cases value with
  | none => exact .throw _
  | some value => exact .pure fun m hm => ⟨hm.1.symm, hm.2⟩

end

end ScriptGraph.Script
