import ScriptGraph.Proofs.Script.Operation

/-! # Outcomes of executions

An execution that does not branch prepares its results. Then it either fails, and has recorded
nothing, or records on all outputs that are for results and follows every output. Of the log it can
be told which of the two has happened.
-/

namespace ScriptGraph.Script

open Json (Value)

variable {s : Setting} {v : Node} {kind : Kind} {ports : List Nat}
  {outputs : Table PortRef Value} {has : PortRef → Bool} {P : Machine → Prop}

/-- A successful execution follows every output. -/
def Proceeds (flow : Flow) (_ : Machine) : Prop :=
  flow = .proceed

/-- The state in which values have been recorded on outputs of a node, one after the other. -/
def Machine.recordedAll (m : Machine) (v : Node) (results : List (Nat × Value)) : Machine :=
  results.foldl (fun m result => m.recorded ⟨v.id, result.1⟩ result.2) m

/-- How an execution ends that began in a state: it has prepared its results, and then it fails, or
records on all outputs that are for results and follows every output. -/
inductive Outcome (s : Setting) (v : Node) (has : PortRef → Bool) (m : Machine) :
    Except Fault Flow × Machine → Prop where
  | fails {m₁ : Machine} (fault : Fault) : Prepares v m m₁ → Outcome s v has m (.error fault, m₁)
  | yields {m₁ : Machine} (results : List (Nat × Value)) : Prepares v m m₁ →
      results.map (·.1) = s.products v → s.products v ⊆ s.results has v →
      Outcome s v has m (.ok .proceed, m₁.recordedAll v results)

theorem Outcome.head {has : PortRef → Bool} {m m₁ : Machine} {ending : Except Fault Flow × Machine}
    (steps : Prepares v m m₁) (h : Outcome s v has m₁ ending) : Outcome s v has m ending := by
  cases h with
  | fails fault steps' => exact .fails fault (steps.trans steps')
  | yields results steps' hv hp => exact .yields results (steps.trans steps') hv hp

/-- From states with a property every execution ends so. -/
def Yields (s : Setting) (v : Node) (has : PortRef → Bool) (P : Machine → Prop)
    (x : ExceptT Fault RunM Flow) : Prop :=
  ∀ m, P m → Outcome s v has m (x.run.run m)

namespace Yields

variable {has : PortRef → Bool} {P : Machine → Prop} {α : Type} {x : ExceptT Fault RunM α}
  {Q : α → Machine → Prop} {f : α → ExceptT Fault RunM Flow}

theorem throw (fault : Fault) : Yields s v has P (MonadExcept.throw fault) :=
  fun _ _ => .fails fault .refl

/-- Where there is nothing to record, it is enough to go on. -/
theorem nothing (hp : s.products v = []) : Yields s v has P (pure .proceed) :=
  fun _ _ => .yields [] .refl hp.symm (hp ▸ List.nil_subset _)

theorem bind (hx : Tries (Operation v [] false) P x Q) (hf : ∀ a, Yields s v has (Q a) (f a)) :
    Yields s v has P (x >>= f) := by
  intro m hm
  obtain ⟨steps, hq⟩ := hx m hm
  rw [ExceptT.run_bind, StateT.run_bind]
  generalize x.run.run m = result at steps hq
  obtain ⟨result, m₁⟩ := result
  cases result with
  | ok a => exact (hf a m₁ (hq a rfl)).head steps
  | error fault => exact .fails fault steps

theorem assuming {p : Prop} {x : ExceptT Fault RunM Flow} (h : p → Yields s v has P x) :
    Yields s v has (fun m => p ∧ P m) x :=
  fun m hm => h hm.1 m hm.2

/-- What is left to do behind a check that fails or passes. -/
theorem check {c : Prop} [Decidable c] {fault : Fault} {y : Unit → ExceptT Fault RunM Flow}
    (hy : ¬ c → Yields s v has P (y ())) :
    Yields s v has P (if c then MonadExcept.throw fault >>= y else y ()) := by
  split
  next => exact throw fault
  next h => exact hy h

end Yields

/-- An executor that records nothing yields nothing. -/
theorem Tries.yields {has : PortRef → Bool} {P : Machine → Prop} {x : ExceptT Fault RunM Flow}
    (hx : Tries (Operation v [] false) P x Proceeds) (hp : s.products v = []) :
    Yields s v has P x := by
  intro m hm
  obtain ⟨steps, hq⟩ := hx m hm
  generalize x.run.run m = result at steps hq
  obtain ⟨result, m₁⟩ := result
  cases result with
  | error fault => exact .fails fault steps
  | ok flow =>
    obtain rfl : flow = .proceed := hq flow rfl
    exact .yields [] steps hp.symm (hp ▸ List.nil_subset _)

/-- A node that computes a result ends by recording it. -/
theorem yields_finish (hk : Kind.ofName? v.kind = some kind) (hr : kind.hasResult)
    (hc : s.computes outputs.contains v kind) {P : Machine → Prop} (value : Value) :
    Yields s v outputs.contains P
      (do s.recordPrimary v value; return .proceed : ExceptT Fault RunM Flow) := by
  have hp : s.products v = (s.primary? v).toList := Workspace.products_of_hasResult hk hr
  have allowed : s.products v ⊆ s.results outputs.contains v := by
    intro port hport
    rw [hp, Option.mem_toList] at hport
    exact (Workspace.mem_results hk (by rintro rfl; cases hr)).mpr ⟨hc, hport⟩
  intro m _
  rw [run_lift_bind (recordPrimary_run s v value m)]
  cases h : s.primary? v with
  | none =>
    rw [h] at hp
    exact .yields [] .refl hp.symm allowed
  | some port =>
    rw [h] at hp
    exact .yields [(port, value)] .refl hp.symm allowed

/-! ### What the log tells of an execution -/

/-- The node that recorded something or failed. -/
def Event.deedOf? : Event → Option NodeId
  | .record output _ => some output.node
  | .failure d => some d.node
  | _ => none

/-- What a node recorded, and its failures. -/
def deedsOf (id : NodeId) (es : List Event) : List Event :=
  es.filter (·.deedOf? = some id)

theorem Event.deedOf?_eq_none {e : Event} (h : e.isQuiet) : e.deedOf? = none := by
  cases e <;> first | rfl | cases h

theorem deedsOf_append (id : NodeId) (es es' : List Event) :
    deedsOf id (es ++ es') = deedsOf id es ++ deedsOf id es' :=
  List.filter_append ..

theorem mem_deedsOf {id : NodeId} {es : List Event} {e : Event} :
    e ∈ deedsOf id es ↔ e ∈ es ∧ e.deedOf? = some id := by
  simp [deedsOf]

/-- What one execution of a node is known by: it may fail and then has recorded nothing, or it
records once on each output for results. A node without such outputs may fail more than once. -/
inductive Ending (s : Setting) (v : Node) : List Event → Prop where
  | idle {es : List Event} : s.products v = [] → (∀ output value, .record output value ∉ es) →
      Ending s v es
  | results (results : List (Nat × Value)) : results.map (·.1) = s.products v →
      Ending s v (results.map fun result => .record ⟨v.id, result.1⟩ result.2)
  | failure (fault : Fault) : Ending s v [.failure ⟨v.id, v.kind, fault⟩]

namespace Event.IsOwn

variable {reports : Bool} {es : List Event}

theorem deedOf?_eq {e : Event} (h : e.IsOwn v ports reports) (id : NodeId) :
    e.deedOf? = some id → id = v.id := by
  cases h with
  | quiet hq => rw [deedOf?_eq_none hq]; exact nofun
  | bind => exact nofun
  | record | report => exact fun h => (Option.some.inj h).symm

theorem deedsOf_eq_nil {id : NodeId} (h : ∀ e ∈ es, e.IsOwn v ports reports) (hv : v.id ≠ id) :
    deedsOf id es = [] :=
  List.filter_eq_nil_iff.mpr fun e he hd =>
    hv ((h e he).deedOf?_eq id (of_decide_eq_true hd)).symm

/-- Where nothing is for results, nothing is recorded. -/
theorem not_record (h : ∀ e ∈ es, e.IsOwn v [] reports) (output : PortRef) (value : Value) :
    .record output value ∉ es := by
  intro he
  cases h _ he with
  | quiet hq => cases hq
  | record _ hp => cases hp

/-- What comes before a result or a failure is no deed. -/
theorem deedsOf_prepares (h : ∀ e ∈ es, e.IsOwn v [] false) (id : NodeId) :
    deedsOf id es = [] := by
  refine List.filter_eq_nil_iff.mpr fun e he => ?_
  cases h e he with
  | quiet hq => simp [deedOf?_eq_none hq]
  | bind => simp [deedOf?]
  | record _ hp => cases hp
  | report _ hr => cases hr

end Event.IsOwn

theorem Machine.log_recordedAll (m : Machine) (results : List (Nat × Value)) :
    (m.recordedAll v results).log.toList =
      m.log.toList ++ results.map fun result => .record ⟨v.id, result.1⟩ result.2 := by
  induction results generalizing m with
  | nil => simp [recordedAll]
  | cons result results ih =>
    change ((m.recorded ⟨v.id, result.1⟩ result.2).recordedAll v results).log.toList = _
    rw [ih]
    simp [recorded, logged]

theorem own_recordedAll (m : Machine) {results : List (Nat × Value)}
    (h : results.map (·.1) ⊆ ports) : Own v ports m (m.recordedAll v results) := by
  induction results generalizing m with
  | nil => exact .refl
  | cons result results ih =>
    obtain ⟨hp, hrest⟩ := List.cons_subset.mp h
    exact .head (.record m result.2 hp) (ih _ hrest)

/-- Executes a node and reports a failure, behind which every output is followed. -/
def attempt (v : Node) (x : ExceptT Fault RunM Flow) : RunM Flow := do
  match ← x.run with
  | .ok flow => return flow
  | .error fault =>
    diagnose v fault
    return .proceed

/-- What an execution does by itself, and how it is known from the log. -/
structure Performed (s : Setting) (v : Node) (ports : List Nat) (m m' : Machine) : Prop where
  own : Own v ports m m'
  ending : ∃ es, m'.log.toList = m.log.toList ++ es ∧ Ending s v (deedsOf v.id es)

/-- Where nothing is for results, whatever an execution does can be its end. -/
theorem Own.performed {m m' : Machine} (h : Own v [] m m') (hp : s.products v = []) :
    Performed s v ports m m' where
  own := Operation.steps_own h
  ending := by
    obtain ⟨es, he, hes⟩ := Operation.steps_log_eq h
    exact ⟨es, he, .idle hp fun output value hm =>
      Event.IsOwn.not_record hes output value (mem_deedsOf.mp hm).1⟩

/-- An execution goes on from what belongs to its beginning. -/
theorem Performed.head {m m₁ m' : Machine} (h : Performed s v ports m₁ m')
    (steps : Prepares v m m₁) : Performed s v ports m m' where
  own := (Operation.steps_own steps).trans h.own
  ending := by
    obtain ⟨es, he, hes⟩ := Operation.steps_log_eq steps
    obtain ⟨es', he', ending⟩ := h.ending
    refine ⟨es ++ es', by rw [he', he, List.append_assoc], ?_⟩
    rwa [deedsOf_append, Event.IsOwn.deedsOf_prepares hes, List.nil_append]

theorem deedsOf_self {es : List Event} {id : NodeId} (h : ∀ e ∈ es, e.deedOf? = some id) :
    deedsOf id es = es :=
  List.filter_eq_self.mpr fun e he => decide_eq_true (h e he)

theorem Outcome.performed {m : Machine} {x : ExceptT Fault RunM Flow}
    (h : Outcome s v has m (x.run.run m)) :
    ((attempt v x).run m).1 = .proceed ∧
      Performed s v (s.results has v) m ((attempt v x).run m).2 := by
  unfold attempt
  rw [StateT.run_bind]
  generalize x.run.run m = ending at h
  cases h with
  | @fails m₁ fault steps =>
    change _ = Flow.proceed ∧ Performed s v _ m ((diagnose v fault).run m₁).2
    rw [diagnose_run]
    refine ⟨rfl, Performed.head ⟨.single (.report m₁ fault rfl), _, m₁.log_logged _, ?_⟩ steps⟩
    rw [deedsOf_self (List.forall_mem_singleton.mpr rfl)]
    exact .failure fault
  | @yields m₁ results steps hv hp =>
    change _ = Flow.proceed ∧ Performed s v _ m (m₁.recordedAll v results)
    refine ⟨rfl, Performed.head ⟨own_recordedAll m₁ (hv ▸ hp), _, m₁.log_recordedAll _, ?_⟩ steps⟩
    rw [deedsOf_self (List.forall_mem_map.mpr fun _ _ => rfl)]
    exact .results results hv

end ScriptGraph.Script
