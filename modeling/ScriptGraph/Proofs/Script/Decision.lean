import ScriptGraph.Proofs.Script.Leaves
import ScriptGraph.Proofs.Script.Simulation
import ScriptGraph.Proofs.Walk.Route

/-! # Decisions

A node that decides chooses one of its control outputs by its inputs and its properties. It follows
the output that it has chosen. Where nothing can be chosen it reports why, and leads nowhere.
-/

namespace ScriptGraph.Script

open Json (Value)

variable {s : Setting} {v : Node} {kind : Kind}

/-- The output that a node of a kind chooses: by a comparison or a condition, one of two, and by a
value the one of the first case that holds for it. Nodes of other kinds have nothing to choose. -/
def Setting.choice (s : Setting) (v : Node) : Kind → ExceptT Fault RunM Nat
  | .ifThen => do
    let a ← s.requireInput v 1
    let b ← s.requireInput v 2
    let operator := ((s.props v).nonEmpty? "operator").getD "=="
    let outcome ← (compare operator a b : Except Fault Bool)
    return Execute.branchPort outcome
  | .condition => do
    let outcome ← Execute.conditionOf s v
    return Execute.branchPort outcome
  | .switch => do
    let value ← s.requireInput v 1
    return Execute.casePort ((s.props v).flag "ignoreCase") value (s.cases v)
  | _ => return 0

/-! ### What is chosen -/

theorem branchPort_mem (outcome : Bool) : Execute.branchPort outcome ∈ [0, 1] := by
  cases outcome <;> simp [Execute.branchPort]

theorem casePort_mem (ignoreCase : Bool) (value : Value) :
    Execute.casePort ignoreCase value (s.cases v) ∈ s.casePorts v := by
  unfold Execute.casePort Workspace.casePorts
  split
  next index h =>
    obtain ⟨hi, -⟩ := List.findIdx?_eq_some_iff_findIdx_eq.mp h
    rw [List.mem_append, List.mem_range'_1]
    omega
  next => simp

/-- A choice is made among the outputs of the kind, and not without what it needs. -/
theorem tries_choice {outputs : Table PortRef Value} (hd : kind.decides) :
    Tries (Operation v [] false) (Knows outputs) (s.choice v kind) fun port _ =>
      port ∈ s.branchPorts v kind ∧ ∀ index ∈ kind.decisive, s.offers outputs.contains v index := by
  cases kind with
  | ifThen =>
    refine (tries_requireInput 1).bind fun a => .assuming fun ha => ?_
    refine (tries_requireInput 2).bind fun b => .assuming fun hb => ?_
    refine (Tries.liftExcept fun _ _ hm _ => hm).bind fun outcome => .pure fun _ _ => ?_
    exact ⟨branchPort_mem outcome, by simpa [Kind.decisive] using ⟨ha, hb⟩⟩
  | condition =>
    refine (checks_conditionOf.tries).bind fun outcome => .pure fun _ _ => ?_
    exact ⟨branchPort_mem outcome, fun _ hi => absurd hi List.not_mem_nil⟩
  | switch =>
    refine (tries_requireInput 1).bind fun value => .assuming fun ho => .pure fun _ _ => ?_
    exact ⟨casePort_mem _ value, by simpa [Kind.decisive] using ho⟩
  | _ => cases hd

/-- Readers of inputs are given the same in both states. -/
structure SameValues (m m' : Machine) : Prop where
  outputs : m.outputs = m'.outputs
  bindings : m.bindings = m'.bindings

theorem SameValues.unbound?_eq {m m' : Machine} (h : SameValues m m') (index : Nat) :
    s.unbound? m v index = s.unbound? m' v index := by
  unfold Setting.unbound?
  rw [h.bindings]

theorem SameValues.withProducer {m m' : Machine} (h : SameValues m m') (index : Nat) :
    SameValues (s.withProducer v index m) (s.withProducer v index m') := by
  unfold Setting.withProducer
  rw [h.unbound?_eq]
  split
  next => exact h
  next => exact ⟨h.outputs, congrArg (Table.insert · _ _) h.bindings⟩

theorem simulates_input (index : Nat) :
    Simulates SameValues (s.input v index) (s.input v index) := by
  intro m m' h
  have after := h.withProducer (s := s) (v := v) index
  have same : s.outputSource (s.withProducer v index m) =
      s.outputSource (s.withProducer v index m') := by
    unfold Setting.outputSource
    rw [after.outputs, after.bindings]
  rw [s.input_run, s.input_run, same]
  exact ⟨rfl, after⟩

theorem alike_sameValues (s : Setting) (v : Node) : s.Alike SameValues s v v where
  props := .refl _
  inputName _ := rfl
  input _ := simulates_input _

theorem attempts_choice (hd : kind.decides) :
    Attempts SameValues (s.choice v kind) (s.choice v kind) := by
  have alike := alike_sameValues s v
  cases kind with
  | ifThen =>
    refine .bind (alike.requireInput (by decide)) fun a => ?_
    refine .bind (alike.requireInput (by decide)) fun b => ?_
    exact .bind (.liftExcept _) fun _ => .pure _
  | condition => exact .bind alike.conditionOf fun _ => .pure _
  | switch => exact .bind (alike.requireInput (by decide)) fun _ => .pure _
  | _ => cases hd

/-! ### What comes of a choice -/

/-- The ending of a decision, given that of a choice: what has been chosen is told of and followed.
-/
inductive Ends : Except Fault Nat × Machine → Except Fault Flow × Machine → Prop where
  | follows (port : Nat) (text : String) (m : Machine) :
      Ends (.ok port, m) (.ok (.follow port), m.logged [.trace text])
  | fails (fault : Fault) (m : Machine) : Ends (.error fault, m) (.error fault, m)

/-- The decision ends as the choice says. -/
def EndsAs (decision : ExceptT Fault RunM Flow) (choice : ExceptT Fault RunM Nat) : Prop :=
  ∀ m, Ends (choice.run.run m) (decision.run.run m)

namespace EndsAs

theorem follow (port : Nat) (text : String) :
    EndsAs (do trace text; return .follow port) (pure port) := by
  intro m
  have run : (do trace text; return .follow port : ExceptT Fault RunM Flow).run.run m =
      (.ok (.follow port), m.logged [.trace text]) := by
    change (Except.ok (Flow.follow port), ((trace text).run m).2) = _
    rw [trace, log_run]
  rw [run]
  exact .follows port text m

theorem bind {α : Type} (x : ExceptT Fault RunM α) {f : α → ExceptT Fault RunM Flow}
    {g : α → ExceptT Fault RunM Nat} (h : ∀ a, EndsAs (f a) (g a)) :
    EndsAs (x >>= f) (x >>= g) := by
  intro m
  rcases hx : x.run.run m with ⟨result, m₁⟩
  cases result with
  | ok a =>
    rw [run_bind_of_ok hx, run_bind_of_ok hx]
    exact h a m₁
  | error fault =>
    rw [run_bind_of_error hx, run_bind_of_error hx]
    exact .fails fault m₁

end EndsAs

/-- The executors of the kinds that decide take a decision by their choice. -/
theorem exists_decision (hd : kind.decides) (visit : Node → RunM Unit) :
    ∃ decision, Execute.builtin kind s visit v = Execute.deciding v decision ∧
      EndsAs decision (s.choice v kind) := by
  cases kind with
  | ifThen =>
    refine ⟨_, rfl, .bind _ fun a => .bind _ fun b => .bind _ fun outcome => ?_⟩
    exact .follow (Execute.branchPort outcome) _
  | condition =>
    refine ⟨_, rfl, .bind _ fun outcome => ?_⟩
    exact .follow (Execute.branchPort outcome) _
  | switch => exact ⟨_, rfl, .bind _ fun value => .follow _ _⟩
  | _ => cases hd

/-- The ending of the execution of a node, given that of its choice. -/
inductive Resolves (v : Node) : Except Fault Nat × Machine → Flow × Machine → Prop where
  | follows (port : Nat) (text : String) (m : Machine) :
      Resolves v (.ok port, m) (.follow port, m.logged [.trace text])
  | fails (fault : Fault) (m : Machine) :
      Resolves v (.error fault, m) (.halt, m.logged [.failure ⟨v.id, v.kind, fault⟩])

section

variable {decision : ExceptT Fault RunM Flow} {m m₁ : Machine}

theorem deciding_run_of_ok {flow : Flow} (h : decision.run.run m = (.ok flow, m₁)) :
    (Execute.deciding v decision).run.run m = (.ok flow, m₁) := by
  unfold Execute.deciding
  simp only [tryCatch, tryCatchThe, MonadExceptOf.tryCatch, ExceptT.tryCatch, ExceptT.run_mk]
  have : StateT.run decision m = (.ok flow, m₁) := h
  rw [StateT.run_bind, this]
  rfl

theorem deciding_run_of_error {fault : Fault} (h : decision.run.run m = (.error fault, m₁)) :
    (Execute.deciding v decision).run.run m =
      (.ok .halt, m₁.logged [.failure ⟨v.id, v.kind, fault⟩]) := by
  unfold Execute.deciding
  simp only [tryCatch, tryCatchThe, MonadExceptOf.tryCatch, ExceptT.tryCatch, ExceptT.run_mk]
  have : StateT.run decision m = (.error fault, m₁) := h
  rw [StateT.run_bind, this]
  change (Except.ok Flow.halt, ((diagnose v fault).run m₁).2) = _
  rw [diagnose_run]

theorem deciding_of_ok {flow : Flow} (h : decision.run.run m = (.ok flow, m₁)) :
    (attempt v (Execute.deciding v decision)).run m = (flow, m₁) := by
  unfold attempt
  rw [StateT.run_bind, deciding_run_of_ok h]
  rfl

theorem deciding_of_error {fault : Fault} (h : decision.run.run m = (.error fault, m₁)) :
    (attempt v (Execute.deciding v decision)).run m =
      (.halt, m₁.logged [.failure ⟨v.id, v.kind, fault⟩]) := by
  unfold attempt
  rw [StateT.run_bind, deciding_run_of_error h]
  rfl

end

theorem resolves_attempt (hd : kind.decides) (visit : Node → RunM Unit) (m : Machine) :
    Resolves v ((s.choice v kind).run.run m)
      ((attempt v (Execute.builtin kind s visit v)).run m) := by
  obtain ⟨decision, he, ends⟩ := exists_decision (s := s) (v := v) hd visit
  have ending := ends m
  rw [he]
  generalize (s.choice v kind).run.run m = chosen at ending
  generalize hr : decision.run.run m = ended at ending
  cases ending with
  | follows port text m₁ =>
    rw [deciding_of_ok hr]
    exact .follows port text m₁
  | fails fault m₁ =>
    rw [deciding_of_error hr]
    exact .fails fault m₁

/-- What an execution of a node that decides has come to, by its choice in the state that it began
in: where it leads, and what is known of it from the log. -/
inductive Decided (s : Setting) (v : Node) (kind : Kind) (m : Machine) (es : List Event) :
    Route → Prop where
  | follows {port : Nat} : ((s.choice v kind).run.run m).1 = .ok port → deedsOf v.id es = [] →
      Decided s v kind m es (.ofNodes (s.controlSuccessors v (some port)))
  | fails {fault : Fault} : ((s.choice v kind).run.run m).1 = .error fault →
      deedsOf v.id es = [.failure ⟨v.id, v.kind, fault⟩] → Decided s v kind m es .stop

theorem Resolves.decided {m m₁ m' : Machine} {chosen : Except Fault Nat} {flow : Flow}
    (h : Resolves v (chosen, m₁) (flow, m')) (steps : Prepares v m m₁)
    (hc : ((s.choice v kind).run.run m).1 = chosen) :
    Own v [] m m' ∧
      ∃ es, m'.log.toList = m.log.toList ++ es ∧ Decided s v kind m es (s.flowRoute v flow) := by
  have own : Own v [] m m₁ := Operation.steps_own steps
  obtain ⟨es, he, hes⟩ := Operation.steps_log_eq steps
  have silent : deedsOf v.id es = [] := Event.IsOwn.deedsOf_prepares hes v.id
  cases h with
  | follows port text =>
    refine ⟨.tail own (.tell _ rfl), es ++ [.trace text], ?_, .follows hc ?_⟩
    · rw [Machine.log_logged, he, List.append_assoc]
    · rw [deedsOf_append, silent]
      rfl
  | fails fault =>
    refine ⟨.tail own (.report _ fault rfl), es ++ [.failure ⟨v.id, v.kind, fault⟩], ?_,
      .fails hc ?_⟩
    · rw [Machine.log_logged, he, List.append_assoc]
    · rw [deedsOf_append, silent, deedsOf_self (List.forall_mem_singleton.mpr rfl)]
      rfl

end ScriptGraph.Script
