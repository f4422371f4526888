import ScriptGraph.Proofs.Script.Effect
import ScriptGraph.Proofs.Script.Replay

/-! # The states of a run

All that a run can do, one thing after the other, whatever the registry and whether in debug mode or
not. An execution that is under way may report a failure once.
-/

namespace ScriptGraph.Script

variable {s : Setting} {v : Node} {pending : List Node} {m m' : Machine} {α : Type}

/-- The state may occur in a run. Of the executions under way, those that have not reported a
failure are pending, the innermost first. -/
inductive Reached (s : Setting) : (pending : List Node) → Machine → Prop where
  | start (debug : Bool) : Reached s [] { debug }
  | enter {pending : List Node} {m : Machine} {v : Node} : Reached s pending m →
      v ∈ s.graph.nodes.toList → Reached s (v :: pending) (began v m)
  | effect {pending : List Node} {m m' : Machine} {v : Node} : Reached s pending m →
      Effect s v m m' → Reached s pending m'
  | report {pending : List Node} {m : Machine} {v : Node} (fault : Fault) :
      Reached s (v :: pending) m → Reached s pending (m.logged [.failure ⟨v.id, v.kind, fault⟩])
  | settle {pending : List Node} {m : Machine} {v : Node} : Reached s (v :: pending) m →
      Reached s pending m
  | iterate {pending : List Node} {m : Machine} (body : PortRef) : Reached s pending m →
      Reached s pending (m.logged [.iteration body])
  | leave {pending : List Node} {m : Machine} (visited : VisitSet) : Reached s pending m →
      Reached s pending { m with visited }

namespace Reached

theorem nameless (h : Reached s pending m) : m.Nameless := by
  induction h with
  | start => rfl
  | effect _ he ih => exact he.nameless ih
  | enter _ _ ih | report _ _ ih | settle _ ih | iterate _ _ ih | leave _ _ ih => exact ih

theorem told (h : Reached s pending m) : m.Told := by
  induction h with
  | start => exact ⟨rfl, rfl⟩
  | enter _ _ ih => exact ih.began _
  | effect _ he ih =>
    obtain ⟨_, he⟩ := he.operation
    exact he.told ih
  | report _ _ ih | iterate _ _ ih => exact ih.event rfl rfl
  | settle _ ih => exact ih
  | leave _ _ ih => exact ⟨ih.outputs, ih.bindings⟩

theorem mem_nodes (h : Reached s pending m) : ∀ v ∈ pending, v ∈ s.graph.nodes.toList := by
  induction h with
  | start => exact nofun
  | enter _ hv ih => exact List.forall_mem_cons.mpr ⟨hv, ih⟩
  | report _ _ ih | settle _ ih => exact (List.forall_mem_cons.mp ih).2
  | effect _ _ ih | iterate _ _ ih | leave _ _ ih => exact ih

theorem effects (h : Reached s pending m) (steps : Relation.ReflTransGen (Effect s v) m m') :
    Reached s pending m' := by
  induction steps with
  | refl => exact h
  | tail _ last ih => exact ih.effect last

/-- At each moment before there was a reached state. -/
theorem before (h : Reached s pending m) {es : List Event} (he : es <+: m.log.toList) :
    ∃ pending' m', Reached s pending' m' ∧ m'.log.toList = es := by
  have last {pending : List Node} {m m' : Machine} {e : Event} (h' : Reached s pending m')
      (more : m'.log.toList = m.log.toList ++ [e])
      (ih : es <+: m.log.toList → ∃ pending' m', Reached s pending' m' ∧ m'.log.toList = es)
      (he : es <+: m'.log.toList) : ∃ pending' m', Reached s pending' m' ∧ m'.log.toList = es := by
    rcases List.prefix_concat_iff.mp (more ▸ he) with rfl | he
    · exact ⟨pending, m', h', more⟩
    · exact ih he
  induction h with
  | start debug => exact ⟨[], _, .start debug, (List.prefix_nil.mp he).symm⟩
  | enter h hv ih => exact last (h.enter hv) (Machine.log_logged ..) ih he
  | effect h step ih =>
    rcases step.log_eq with same | ⟨e, more⟩
    · exact ih (same ▸ he)
    · exact last (h.effect step) more ih he
  | report fault h ih => exact last (h.report fault) (Machine.log_logged ..) ih he
  | iterate body h ih => exact last (h.iterate body) (Machine.log_logged ..) ih he
  | settle _ ih | leave _ _ ih => exact ih he

end Reached

/-- From a reached state the program gets to one, in which certain executions are pending. -/
abbrev Passes (s : Setting) (pending : List Node) (x : RunM α) (left : α → List Node) : Prop :=
  Takes (fun _ _ => True) (Reached s pending) x fun a => Reached s (left a)

/-- What is pending behind an execution. One that fails has not reported it. -/
def unsettled (v : Node) (pending : List Node) : Except Fault Flow → List Node
  | .ok _ => pending
  | .error _ => v :: pending

theorem passes_of_takes {x : RunM α} {Q : α → Machine → Prop}
    (h : Takes (Effect s v) Machine.Nameless x Q) : Passes s pending x fun _ => pending :=
  .single fun m hm => ⟨trivial, hm.effects (h m hm.nameless).1⟩

theorem passes_diagnose (fault : Fault) :
    Passes s (v :: pending) (diagnose v fault) fun _ => pending :=
  .single fun m hm => by
    rw [diagnose_run]
    exact ⟨trivial, hm.report fault⟩

/-- An execution that only has effects has not reported anything. -/
theorem passes_leaf {x : ExceptT Fault RunM Flow} (h : MayDo s v x) :
    Passes s (v :: pending) x.run (unsettled v pending) := by
  refine (passes_of_takes h).mono fun result m hm => ?_
  cases result with
  | ok flow => exact hm.settle
  | error fault => exact hm

theorem passes_deciding {decision : ExceptT Fault RunM Flow} (h : MayDo s v decision) :
    Passes s (v :: pending) (Execute.deciding v decision).run (unsettled v pending) := by
  change Takes _ _ (ExceptT.tryCatch decision _) _
  unfold ExceptT.tryCatch
  refine .bind (passes_of_takes h) fun result => ?_
  cases result with
  | ok flow => exact .pure fun _ hm => hm.settle
  | error fault => exact .bind (passes_diagnose fault) fun _ => .pure fun _ hm => hm

theorem passes_ifThen (visit : Node → RunM Unit) :
    Passes s (v :: pending) (Execute.ifThen s visit v).run (unsettled v pending) := by
  refine passes_deciding (.bind (checks_requireInput 1).mayDo fun a => ?_)
  refine .bind (checks_requireInput 2).mayDo fun b => .bind (checks_except _).mayDo fun _ => ?_
  exact .bind (mayDo_trace _) fun _ => mayDo_pure _

theorem passes_condition (visit : Node → RunM Unit) :
    Passes s (v :: pending) (Execute.condition s visit v).run (unsettled v pending) := by
  refine passes_deciding (.bind checks_conditionOf.mayDo fun outcome => ?_)
  exact .bind (mayDo_trace _) fun _ => mayDo_pure _

theorem passes_switch (visit : Node → RunM Unit) :
    Passes s (v :: pending) (Execute.switch s visit v).run (unsettled v pending) := by
  refine passes_deciding (.bind (checks_requireInput 1).mayDo fun value => ?_)
  exact .bind (mayDo_trace _) fun _ => mayDo_pure _

theorem passes_holds : Passes s (v :: pending) (Execute.holds s v) fun more =>
    if more then v :: pending else pending := by
  unfold Execute.holds
  refine .bind (passes_of_takes checks_conditionOf.mayDo) fun result => ?_
  cases result with
  | ok more =>
    cases more with
    | true => exact .pure fun _ hm => hm
    | false => exact .pure fun _ hm => hm.settle
  | error fault => exact .bind (passes_diagnose fault) fun _ => .pure fun _ hm => hm

section

variable {visit : Node → RunM Unit}
  (h : ∀ u ∈ s.graph.nodes.toList, ∀ pending, Passes s pending (visit u) fun _ => pending)
include h

theorem passes_iterate (port : Nat) :
    Passes s pending (s.iterate visit v port) fun _ => pending := by
  have body : Passes s pending (s.branch visit v port) fun _ => pending :=
    .forM fun u hu => h u (s.mem_nodes_of_mem_controlSuccessors hu) pending
  intro m hm
  rw [iterate_run]
  exact ⟨.single trivial, (body _ (hm.iterate _)).2.leave _⟩

/-- Where a loop reports a failure, it ends. -/
theorem passes_repeatBody {β : Type} {test : β → RunM Bool} {next : β → β}
    (ht : ∀ state, Passes s (v :: pending) (test state) fun more =>
      if more then v :: pending else pending) (remaining done : Nat) (state : β) :
    Passes s (v :: pending) (Execute.repeatBody s visit v test next remaining done state)
      fun _ => pending := by
  induction remaining generalizing done state with
  | zero =>
    unfold Execute.repeatBody
    refine .bind (ht state) fun more => ?_
    cases more with
    | true => exact .bind (passes_diagnose _) fun _ => .pure fun _ hm => hm
    | false => exact .pure fun _ hm => hm
  | succ remaining ih =>
    unfold Execute.repeatBody
    refine .bind (ht state) fun more => ?_
    cases more with
    | true => exact .bind (passes_iterate h 0) fun _ => ih (done + 1) (next state)
    | false => exact .pure fun _ hm => hm

theorem passes_loop {β : Type} {test : β → RunM Bool} {next : β → β} {state : β}
    (ht : ∀ state, Passes s (v :: pending) (test state) fun more =>
      if more then v :: pending else pending) (limit : Nat) (text : Nat → String) :
    Passes s (v :: pending)
      (do
        let count ← Execute.repeatBody s visit v test next limit 0 state
        trace (text count)
        return .follow 1 : ExceptT Fault RunM Flow).run
      (unsettled v pending) := by
  have counted (count : Nat) : Passes s pending
      (do trace (text count); return .follow 1 : ExceptT Fault RunM Flow).run
      (unsettled v pending) :=
    .bind (passes_of_takes (v := v) (does_log rfl)) fun _ => .pure fun _ hm => hm
  exact .bind (passes_repeatBody h ht limit 0 state) counted

theorem passes_forLoop :
    Passes s (v :: pending) (Execute.forLoop s visit v).run (unsettled v pending) := by
  unfold Execute.forLoop
  dsimp only
  split
  · rw [Tries.throw_bind]
    exact .pure fun _ hm => hm
  · have decided (more : Bool) : Passes s (v :: pending) (pure more) fun more =>
        if more then v :: pending else pending := by
      cases more with
      | true => exact .pure fun _ hm => hm
      | false => exact .pure fun _ hm => hm.settle
    exact passes_loop h (fun _ => decided _) _ _

theorem passes_builtin {kind : Kind} (hv : v ∈ s.graph.nodes.toList) (hk : v.kind = kind.name) :
    Passes s (v :: pending) (Execute.builtin kind s visit v).run (unsettled v pending) := by
  cases hb : kind.branches with
  | false => exact passes_leaf (mayDo_leaf visit hv hk hb)
  | true =>
    cases kind with
    | ifThen => exact passes_ifThen visit
    | condition => exact passes_condition visit
    | switch => exact passes_switch visit
    | whileLoop => exact passes_loop h (fun _ => passes_holds) _ _
    | forLoop => exact passes_forLoop h
    | _ => cases hb

end

theorem passes_attempt {x : ExceptT Fault RunM Flow}
    (h : Passes s (v :: pending) x.run (unsettled v pending)) :
    Passes s (v :: pending) (attempt v x) fun _ => pending := by
  refine .bind h fun result => ?_
  cases result with
  | ok flow => exact .pure fun _ hm => hm
  | error fault => exact .bind (passes_diagnose fault) fun _ => .pure fun _ hm => hm

/-! ### Interpreters with the built-in executors -/

namespace Interpreter

variable {limit : Nat} {exchange : Http.Exchange} {draws : Draws}

theorem passes_executorOf {visit : Node → RunM Unit}
    (h : ∀ u ∈ s.graph.nodes.toList, ∀ pending, Passes s pending (visit u) fun _ => pending)
    (hv : v ∈ s.graph.nodes.toList) :
    Passes s (v :: pending) ((builtin limit exchange draws).executorOf v.kind s visit v).run
      (unsettled v pending) := by
  rw [executorOf_builtin]
  cases hk : Kind.ofName? v.kind with
  | some kind => exact passes_builtin h hv (Kind.ofName?_eq_some_iff.mp hk)
  | none => exact .pure fun _ hm => hm

/-- An execution leaves pending what was pending before. -/
theorem reached_execute {visit : Node → RunM Unit}
    (h : ∀ u ∈ s.graph.nodes.toList, ∀ pending, Passes s pending (visit u) fun _ => pending)
    (hv : v ∈ s.graph.nodes.toList) (hm : Reached s pending m) :
    Reached s pending (((builtin limit exchange draws).execute s visit v).run (mark v.id m)).2 := by
  rw [execute_run]
  have begun : Reached s (v :: pending) ((began v m).logged [introduction v]) :=
    .effect (v := v) (.enter hm hv) (.tell _ rfl)
  exact (passes_attempt (passes_executorOf h hv) _ begun).2

theorem passes_walk (limit : Nat) (exchange : Http.Exchange) (draws : Draws) (depth : Nat) :
    ∀ u ∈ s.graph.nodes.toList, ∀ pending, Passes s pending
      (walk s.toWorkspace enter ((builtin limit exchange draws).execute s) depth u)
      fun _ => pending := by
  have lawful := governs limit exchange draws s
  induction depth with
  | zero => exact fun _ _ _ => .pure fun _ hm => hm
  | succ depth ih =>
    intro u hu pending m hm
    by_cases seen : u.id ∈ m.visited.visited
    · rw [walk_seen lawful seen]
      exact ⟨.refl, hm⟩
    · rw [walk_new lawful seen, StateT.run_bind]
      have follows (flow : Flow) : Passes s pending (s.visitFlow
          (walk s.toWorkspace enter ((builtin limit exchange draws).execute s) depth) u flow)
          fun _ => pending := by
        cases flow with
        | proceed => exact .forM fun v hv => ih v (s.mem_nodes_of_mem_controlSuccessors hv) pending
        | follow => exact .forM fun v hv => ih v (s.mem_nodes_of_mem_controlSuccessors hv) pending
        | halt => exact .pure fun _ hm => hm
      exact ⟨.single trivial, (follows _ _ (reached_execute ih hu hm)).2⟩

/-- A run with the built-in executors ends in a reached state, with nothing pending. -/
theorem reached_machine (registry : Registry) (limit : Nat) (exchange : Http.Exchange)
    (draws : Draws) (debug : Bool) (graph : Graph) :
    let i : Interpreter := { registry, maxLoopIterations := limit, exchange, draws, debug }
    Reached (i.setting graph) [] (i.machine graph) := by
  intro i
  have pass : Passes (i.setting graph) [] ((i.setting graph).entryNodes.forM
      (walk (i.setting graph).toWorkspace enter
        ((builtin limit exchange draws).execute (i.setting graph)) graph.nodes.size))
      fun _ => [] :=
    .forM fun v hv => passes_walk limit exchange draws _ v (List.mem_of_mem_filter hv) []
  exact (pass _ (.start debug)).2

/-- The state occurs in the run of a graph: it is reached by what a run can do, and what has
happened until then is what happens at first in this run. -/
structure Occurs (i : Interpreter) (graph : Graph) (m : Machine) : Prop where
  reached : ∃ pending, Reached (i.setting graph) pending m
  before : m.log.toList <+: (i.run graph).log

namespace Occurs

variable {i : Interpreter} {graph : Graph}

theorem told (h : i.Occurs graph m) : m.Told := by
  obtain ⟨pending, reached⟩ := h.reached
  exact reached.told

theorem nameless (h : i.Occurs graph m) : m.Nameless := by
  obtain ⟨pending, reached⟩ := h.reached
  exact reached.nameless

end Occurs

/-- The course of a run: the run ends in a state that occurs, and such a state is there after each
event. -/
structure Course (i : Interpreter) (graph : Graph) : Prop where
  ends : i.Occurs graph (i.machine graph)
  after {es : List Event} (he : es <+: (i.run graph).log) :
    ∃ m, i.Occurs graph m ∧ m.log.toList = es

theorem course (registry : Registry) (limit : Nat) (exchange : Http.Exchange) (draws : Draws)
    (debug : Bool) (graph : Graph) :
    let i : Interpreter := { registry, maxLoopIterations := limit, exchange, draws, debug }
    i.Course graph := by
  intro i
  have reached := reached_machine registry limit exchange draws debug graph
  constructor
  · exact ⟨⟨[], reached⟩, List.prefix_rfl⟩
  · intro es he
    obtain ⟨pending, m, h, rfl⟩ := reached.before he
    exact ⟨m, ⟨⟨pending, h⟩, he⟩, rfl⟩

end Interpreter

end ScriptGraph.Script
