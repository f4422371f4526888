import ScriptGraph.Proofs.Kind.Branches
import ScriptGraph.Proofs.Script.Reading

/-! # Effects of executors

What the built-in executors do to a run by themselves, failures apart: besides reading, they record
on outputs of their node, and give values to variables that a variable node of the graph names. This
goes for graphs of any registry.
-/

namespace ScriptGraph.Script

open Json (Value)

/-- The text is the name of a variable of the graph, and not empty. -/
def Setting.IsVariable (s : Setting) (name : String) : Prop :=
  name ≠ "" ∧ ∃ u ∈ s.graph.nodes.toList, u.kind = Kind.var.name ∧ s.variableName u = name

variable {s : Setting} {v : Node} {m m' : Machine} {α : Type}

theorem Setting.isVariable_of_producer {index : Nat} {u : Node}
    (h : s.producerVariable? v index = some u) (hn : s.variableName u ≠ "") :
    s.IsVariable (s.variableName u) := by
  obtain ⟨hk, output, hp⟩ := s.producer?_of_producerVariable? h
  exact ⟨hn, u, s.mem_nodes_of_producer? hp, hk, rfl⟩

/-- One thing that an executor does at a node, other than to report its failure. -/
inductive Effect (s : Setting) (v : Node) : Machine → Machine → Prop where
  | tell (m : Machine) {e : Event} : e.isQuiet → Effect s v m (m.logged [e])
  | draw (m : Machine) : Effect s v m { m with drawn := m.drawn + 1 }
  | send (m : Machine) : Effect s v m { m with sent := m.sent + 1 }
  | store (m : Machine) {name : String} (value : Value) : s.IsVariable name →
      Effect s v m (m.bound name value)
  | record (m : Machine) (port : Nat) (value : Value) :
      Effect s v m (m.recorded ⟨v.id, port⟩ value)

namespace Effect

theorem operation (h : Effect s v m m') : ∃ ports, Operation v ports false m m' := by
  cases h with
  | tell he => exact ⟨[], .tell m he⟩
  | draw => exact ⟨[], .draw m⟩
  | send => exact ⟨[], .send m⟩
  | store value hn => exact ⟨[], .bind m value hn.1⟩
  | record port value => exact ⟨[port], .record m value List.mem_cons_self⟩

/-- No effect takes more than one event. -/
theorem log_eq (h : Effect s v m m') :
    m'.log = m.log ∨ ∃ e, m'.log.toList = m.log.toList ++ [e] := by
  cases h with
  | tell | store | record => exact .inr ⟨_, m.log_logged _⟩
  | draw | send => exact .inl rfl

theorem nameless (h : Effect s v m m') (hm : m.Nameless) : m'.Nameless := by
  obtain ⟨_, h⟩ := h.operation
  exact h.nameless hm

end Effect

theorem Reading.effects (h : Reading s v m m') : Relation.ReflTransGen (Effect s v) m m' := by
  cases h with
  | tell he => exact .single (.tell m he)
  | draw => exact .single (.draw m)
  | send => exact .single (.send m)
  | input index =>
    unfold Setting.withProducer
    split
    next => exact .refl
    next u hu =>
      obtain ⟨source, hn, -⟩ := s.of_unbound? hu
      exact .single (.store m _ (s.isVariable_of_producer source hn))

/-! ### Programs of effects -/

/-- The program has effects of an executor at a node. -/
abbrev Does (s : Setting) (v : Node) (x : RunM α) : Prop :=
  Takes (Effect s v) Machine.Nameless x fun _ => Machine.Nameless

/-- Whether the program fails or not, it has effects of an executor at a node. -/
abbrev MayDo (s : Setting) (v : Node) (x : ExceptT Fault RunM α) : Prop :=
  Tries (Effect s v) Machine.Nameless x fun _ => Machine.Nameless

theorem Reads.does {x : RunM α} (h : Reads s v x) : Does s v x :=
  (h.expand fun _ _ => Reading.effects).keeping fun _ _ => Effect.nameless

theorem Checks.mayDo {x : ExceptT Fault RunM α} (h : Checks s v x) : MayDo s v x :=
  (h.expand fun _ _ => Reading.effects).keeping fun _ _ => Effect.nameless

theorem mayDo_pure (a : α) : MayDo s v (pure a) :=
  (checks_pure a).mayDo

theorem does_log {e : Event} (he : e.isQuiet) : Does s v (log e) :=
  .single fun m hm => by
    rw [log_run]
    exact ⟨.tell m he, hm⟩

theorem mayDo_trace (text : String) : MayDo s v (trace text : ExceptT Fault RunM Unit) :=
  .lift (does_log rfl)

theorem does_setVariable {name : String} (hn : s.IsVariable name) (value : Value) :
    Does s v (setVariable name value) :=
  .single fun m hm => by
    rw [setVariable_run]
    exact ⟨.store m value hn, hm.bound hn.1 value⟩

theorem does_record (port : Nat) (value : Value) : Does s v (record v port value) :=
  .single fun m hm => by
    rw [record_run]
    exact ⟨.record m port value, hm⟩

theorem does_recordPrimary (value : Value) : Does s v (s.recordPrimary v value) := by
  unfold Setting.recordPrimary
  split
  next port _ => exact does_record port value
  next => exact (reads_pure ()).does

/-- What gives a value is no variable without a name. -/
theorem tries_requireInput_named (index : Nat) :
    Tries (Effect s v) Machine.Nameless (s.requireInput v index) fun _ m =>
      (∀ u, s.producerVariable? v index = some u → s.variableName u ≠ "") ∧ m.Nameless := by
  intro m hm
  obtain ⟨steps, named⟩ := (checks_requireInput (s := s) (v := v) index).mayDo m hm
  have offers : Tries (Operation v [] false) (Knows m.outputs) (s.requireInput v index) fun _ _ =>
      s.offers m.outputs.contains v index :=
    (tries_requireInput index).mono fun _ _ h value hv => (h value hv).1
  refine ⟨steps, fun value hv => ⟨fun u hu => ?_, named value hv⟩⟩
  exact s.named_of_offers ((offers m ⟨rfl, hm⟩).2 value hv) hu

theorem does_writeBack {index : Nat}
    (hn : ∀ u, s.producerVariable? v index = some u → s.variableName u ≠ "") (value : Value) :
    Does s v (s.writeBack v index value) := by
  unfold Setting.writeBack
  split
  next u hu => exact does_setVariable (s.isVariable_of_producer hu (hn u hu)) value
  next => exact (reads_pure ()).does

/-! ### Executors -/

variable (visit : Node → RunM Unit)

theorem mayDo_waitForSeconds : MayDo s v (Execute.waitForSeconds s visit v) := by
  refine .check fun _ => .check fun _ => .bind (mayDo_trace _) fun _ => ?_
  exact .bind (.lift (does_log rfl)) fun _ => mayDo_pure _

theorem mayDo_var (hv : v ∈ s.graph.nodes.toList) (hk : v.kind = Kind.var.name) :
    MayDo s v (Execute.var s visit v) := by
  unfold Execute.var
  cases hn : (s.props v).nonEmpty? "name" with
  | none => exact .throw _
  | some name =>
    obtain ⟨text, hne⟩ := Props.nonEmpty?_eq_some_iff.mp hn
    have own : s.IsVariable name := ⟨hne, v, hv, hk, text⟩
    have known : MayDo s v (liftM (variableValue? name) : ExceptT Fault RunM (Option Value)) :=
      .lift (reads_variableValue? name).does
    -- Every way through the node ends by showing the variable.
    have shows {f : Option Value → ExceptT Fault RunM Flow} (hn : f none = pure .proceed)
        (hs : ∀ value, f (some value) = (do
          trace s!"Variable {name} = {display value}"
          return .proceed)) : MayDo s v (liftM (variableValue? name) >>= f) := by
      refine .bind known fun value => ?_
      cases value with
      | none =>
        rw [hn]
        exact mayDo_pure _
      | some value =>
        rw [hs]
        exact .bind (mayDo_trace _) fun _ => mayDo_pure _
    refine .bind (.lift (reads_input 1).does) fun assigned => ?_
    cases assigned with
    | some assigned =>
      exact .bind (.lift (does_setVariable own assigned)) fun _ => shows rfl fun _ => rfl
    | none =>
      refine .bind known fun value => .ite (fun _ => ?_) fun _ => shows rfl fun _ => rfl
      exact .bind (.lift (does_setVariable own _)) fun _ => shows rfl fun _ => rfl

theorem mayDo_mathOperation : MayDo s v (Execute.mathOperation s visit v) := by
  refine .bind (checks_requireInput 1).mayDo fun a => ?_
  refine .bind (checks_requireInput 2).mayDo fun b => ?_
  refine .bind (checks_except _).mayDo fun result => .bind (mayDo_trace _) fun _ => ?_
  exact .bind (.lift (does_recordPrimary _)) fun _ => mayDo_pure _

theorem mayDo_random : MayDo s v (Execute.random s visit v) := by
  refine .bind checks_randomValue.mayDo fun result => .bind (mayDo_trace _) fun _ => ?_
  exact .bind (.lift (does_recordPrimary _)) fun _ => mayDo_pure _

theorem mayDo_apply (hn : ∀ u, s.producerVariable? v 1 = some u → s.variableName u ≠ "")
    (u : Execute.Update) :
    MayDo s v (do u.apply s v; return .proceed : ExceptT Fault RunM Flow) := by
  refine .bind (.lift ?_) fun _ => mayDo_pure _
  unfold Execute.Update.apply
  cases u.stored with
  | none => exact does_recordPrimary _
  | some value => exact .bind (does_writeBack hn value) fun _ => does_recordPrimary _

theorem mayDo_arrayOperation : MayDo s v (Execute.arrayOperation s visit v) := by
  unfold Execute.arrayOperation
  refine .bind (tries_requireInput_named 1) fun value => .assuming fun hn => ?_
  split
  · exact .bind (checks_updateArray _ _ _).mayDo fun update => mayDo_apply hn update
  · exact .throw _

theorem mayDo_objectOperation : MayDo s v (Execute.objectOperation s visit v) := by
  unfold Execute.objectOperation
  refine .bind (tries_requireInput_named 1) fun value => .assuming fun hn => ?_
  split
  · exact .bind (checks_updateObject _ _ _ _).mayDo fun update => mayDo_apply hn update
  · exact .throw _

theorem mayDo_log : MayDo s v (Execute.log s visit v) := by
  refine .bind (.lift (reads_input 1).does) fun value => ?_
  exact .bind (.lift (does_log rfl)) fun _ => mayDo_pure _

theorem mayDo_httpRequest : MayDo s v (Execute.httpRequest s visit v) := by
  have records (port : Nat) (value : Value) : MayDo s v (record v port value) :=
    .lift (does_record port value)
  unfold Execute.httpRequest
  dsimp only
  refine .check fun _ => .bind (mayDo_trace _) fun _ => ?_
  refine .bind (checks_except _).mayDo fun request => ?_
  refine .bind (checks_sendRequest request).mayDo fun answer => ?_
  refine .bind (mayDo_trace _) fun _ => .bind (mayDo_trace _) fun _ => ?_
  refine .bind (mayDo_trace _) fun _ => .bind (records _ _) fun _ => ?_
  exact .bind (records _ _) fun _ => .bind (records _ _) fun _ => mayDo_pure _

theorem mayDo_convert (c : Execute.Conversion) : MayDo s v (Execute.convert c s visit v) := by
  refine .bind (checks_requireInput 1).mayDo fun input => ?_
  refine .bind (checks_except _).mayDo fun result => .bind (mayDo_trace _) fun _ => ?_
  exact .bind (.lift (does_recordPrimary _)) fun _ => mayDo_pure _

/-- An executor that does not branch has effects only. -/
theorem mayDo_leaf {kind : Kind} (hv : v ∈ s.graph.nodes.toList) (hk : v.kind = kind.name)
    (hb : kind.branches = false) : MayDo s v (Execute.builtin kind s visit v) := by
  cases kind with
  | onStart => exact .bind (mayDo_trace _) fun _ => mayDo_pure _
  | constant => exact mayDo_pure _
  | waitForSeconds => exact mayDo_waitForSeconds visit
  | var => exact mayDo_var visit hv hk
  | mathOperation => exact mayDo_mathOperation visit
  | random => exact mayDo_random visit
  | arrayOperation => exact mayDo_arrayOperation visit
  | objectOperation => exact mayDo_objectOperation visit
  | function => exact .throw _
  | log => exact mayDo_log visit
  | httpRequest => exact mayDo_httpRequest visit
  | jsonParse | jsonStringify | base64Encode | base64Decode => exact mayDo_convert visit _
  | ifThen | condition | switch | whileLoop | forLoop => cases hb

end ScriptGraph.Script
