import ScriptGraph.Proofs.Script.Decision
import ScriptGraph.Proofs.Walk.Depth

/-! # The walk of the interpreter

The conduct of a run, and that the built-in executors keep to it: a node is followed along all its
outputs, along the one that it chooses, or, after so many rounds of a loop, along the one behind the
loop.
-/

namespace ScriptGraph

/-- Where an execution of a node can lead, given how often a loop may run its body and the outputs
that have been recorded on. -/
inductive Workspace.Leads (w : Workspace) (limit : Nat) (has : PortRef → Bool) (v : Node) :
    Route → Prop where
  | all : (∀ kind ∈ Kind.ofName? v.kind, kind.branches = false ∨ kind.loops) →
      w.Leads limit has v (.ofNodes (w.controlSuccessors v none))
  | nowhere {kind : Kind} : Kind.ofName? v.kind = some kind → kind.decides →
      w.Leads limit has v .stop
  | choice {kind : Kind} {port : Nat} : Kind.ofName? v.kind = some kind → kind.decides →
      (∀ index ∈ kind.decisive, w.offers has v index) → port ∈ w.branchPorts v kind →
      w.Leads limit has v (.ofNodes (w.controlSuccessors v (some port)))
  | rounds {kind : Kind} {count : Nat} : Kind.ofName? v.kind = some kind → kind.loops →
      count ≤ limit → w.Leads limit has v
        (.times (.ofNodes (w.controlSuccessors v (some 0))) count ++
          .ofNodes (w.controlSuccessors v (some 1)))

namespace Script

/-- The state in which the execution of a node has begun. -/
def began (v : Node) (m : Machine) : Machine :=
  { m.logged [.node v.id] with visited := ⟨v.id :: m.visited.visited⟩ }

theorem executed_began (v : Node) (m : Machine) : (began v m).executed = m.executed ++ [v.id] :=
  Machine.executed_logged m [.node v.id]

/-- What the execution of a node does before it comes to the first round of a loop. -/
structure Works (s : Setting) (v : Node) (m : Machine) (r : Route) (m' : Machine) : Prop extends
    Performed s v (s.results m.outputs.contains v) m m' where
  route : s.Leads s.maxLoopIterations m.outputs.contains v r
  decision {kind : Kind} (hk : Kind.ofName? v.kind = some kind) (hd : kind.decides) :
    ∃ es, m'.log.toList = m.log.toList ++ es ∧ Decided s v kind m es r

/-- What a loop does between the rounds of its body. -/
def Idles (s : Setting) (m m' : Machine) : Prop :=
  ∃ v ∈ s.graph.nodes.toList, (∃ kind, Kind.ofName? v.kind = some kind ∧ kind.loops) ∧ Own v [] m m'

/-- The conduct of a run. What is entered in one round of a loop does not count as entered in the
next. -/
def traversal (s : Setting) : Conduct Machine where
  visited m := m.visited.visited
  begin := began
  work := Works s
  pause := Idles s
  opens m m' := ∃ body, m' = m.logged [.iteration body]
  closes m m₁ m' := m' = { m₁ with visited := m.visited }
  invariant := Machine.Nameless

theorem traversal_lawful (s : Setting) : (traversal s).Lawful where
  visited_begin _ _ := rfl
  visited_work h := congrArg VisitSet.visited h.own.visited_eq
  visited_pause h := by
    obtain ⟨_, _, _, h⟩ := h
    exact congrArg VisitSet.visited h.visited_eq
  visited_opens h := by
    obtain ⟨_, rfl⟩ := h
    rfl
  visited_closes h _ := by
    obtain rfl := h
    exact List.Subset.refl _
  invariant_begin hm _ := hm
  invariant_work hm h := h.own.nameless hm
  invariant_pause hm h := by
    obtain ⟨_, _, _, h⟩ := h
    exact h.nameless hm
  invariant_opens hm h := by
    obtain ⟨_, rfl⟩ := h
    exact hm
  invariant_closes hm h := by
    obtain rfl := h
    exact hm

/-! ### Loops -/

section

variable {s : Setting} {v : Node} {entered : List NodeId}

/-- Two programs do the same as each other and walk. -/
abbrev Follows {α : Type} (s : Setting) (entered : List NodeId) (x y : RunM α) (r : Route) : Prop :=
  Performs (traversal s) s.toWorkspace entered x y r

theorem iterate_run (s : Setting) (visit : Node → RunM Unit) (v : Node) (port : Nat)
    (m : Machine) : (s.iterate visit v port).run m =
      ((), { ((s.branch visit v port).run (m.logged [.iteration ⟨v.id, port⟩])).2 with
        visited := m.visited }) := by
  unfold Setting.iterate
  rw [StateT.run_bind, log_run]
  rfl

variable {visit visit' : Node → RunM Unit}
  (h : ∀ u ∈ s.graph.nodes.toList, Follows s entered (visit u) (visit' u) (.visit u .stop))
include h

theorem follows_iterate (port : Nat) :
    Follows s entered (s.iterate visit v port) (s.iterate visit' v port)
      (.inside (.ofNodes (s.controlSuccessors v (some port))) .stop) := by
  have body : Follows s entered (s.branch visit v port) (s.branch visit' v port)
      (.ofNodes (s.controlSuccessors v (some port))) :=
    .forM (traversal_lawful s) fun u hu => h u (s.mem_nodes_of_mem_controlSuccessors hu)
  intro m hm hn
  obtain ⟨he, hw⟩ := body (m.logged [.iteration ⟨v.id, port⟩]) hm hn
  rw [iterate_run, iterate_run, he]
  rw [he] at hw
  exact ⟨rfl, .inside ⟨_, rfl⟩ hw rfl .stop⟩

/-- The rounds of a loop are as many as its test and its limit allow. -/
theorem repeatBody_rounds (hn : v ∈ s.graph.nodes.toList)
    (hl : ∃ kind, Kind.ofName? v.kind = some kind ∧ kind.loops) {α : Type}
    {test : α → RunM Bool} (next : α → α)
    (ht : ∀ state,
      Takes (Operation v [] true) Machine.Nameless (test state) fun _ => Machine.Nameless)
    (remaining done : Nat) (state : α) (m : Machine) (hm : entered ⊆ m.visited.visited)
    (hm' : m.Nameless) :
    (Execute.repeatBody s visit v test next remaining done state).run m =
        (Execute.repeatBody s visit' v test next remaining done state).run m ∧
      ∃ count ≤ remaining, Walks (traversal s) s.toWorkspace m
        (.times (.ofNodes (s.controlSuccessors v (some 0))) count)
        ((Execute.repeatBody s visit v test next remaining done state).run m).2 := by
  induction remaining generalizing done state m with
  | zero =>
    have own : Takes (Operation v [] true) Machine.Nameless
        (Execute.repeatBody s visit v test next 0 done state) fun _ _ => True := by
      unfold Execute.repeatBody
      refine (ht state).bind fun more => .ite (fun _ => ?_) fun _ => .pure fun _ _ => trivial
      exact (takes_diagnose _).bind fun _ => .pure fun _ _ => trivial
    refine ⟨?_, 0, le_rfl, (.pause ⟨v, hn, hl, (own m hm').1⟩ .stop)⟩
    unfold Execute.repeatBody
    rfl
  | succ remaining ih =>
    have unfolded (visit : Node → RunM Unit) :
        Execute.repeatBody s visit v test next (remaining + 1) done state =
          (test state >>= fun more => if more then
            s.iterate visit v 0 >>= fun _ =>
              Execute.repeatBody s visit v test next remaining (done + 1) (next state)
          else pure done) := by
      rw [Execute.repeatBody]
    rw [unfolded, unfolded, StateT.run_bind, StateT.run_bind]
    obtain ⟨own, hm₁'⟩ := ht state m hm'
    generalize (test state).run m = result at own hm₁'
    obtain ⟨more, m₁⟩ := result
    cases more with
    | false => exact ⟨rfl, 0, Nat.zero_le _, .pause ⟨v, hn, hl, own⟩ .stop⟩
    | true =>
      have hm₁ : entered ⊆ m₁.visited.visited := by
        rw [Own.visited_eq own]
        exact hm
      obtain ⟨he, hw⟩ := follows_iterate h (v := v) 0 m₁ hm₁ hm₁'
      change (s.iterate visit v 0 >>= fun _ => _).run m₁ =
          (s.iterate visit' v 0 >>= fun _ => _).run m₁ ∧
        ∃ count ≤ remaining + 1, Walks _ _ m _ ((s.iterate visit v 0 >>= fun _ => _).run m₁).2
      rw [StateT.run_bind, StateT.run_bind, ← he]
      generalize (s.iterate visit v 0).run m₁ = result at hw
      obtain ⟨⟨⟩, m₂⟩ := result
      have hm₂ : entered ⊆ m₂.visited.visited :=
        List.Subset.trans hm₁ (hw.visited_subset (traversal_lawful s))
      have hm₂' := hw.invariant (traversal_lawful s) hm₁'
      obtain ⟨he', count, hc, hw'⟩ := ih (done + 1) (next state) m₂ hm₂ hm₂'
      exact ⟨he', count + 1, Nat.succ_le_succ hc, .pause ⟨v, hn, hl, own⟩ (hw.append hw')⟩

end

/-! ### Execution as a walk -/

section

variable {s : Setting} {v : Node}

theorem takes_holds :
    Takes (Operation v [] true) Machine.Nameless (Execute.holds s v) fun _ => Machine.Nameless := by
  intro m hm
  have own : Takes (Operation v [] true) (Knows m.outputs) (Execute.holds s v) fun _ _ => True := by
    refine Takes.bind checks_conditionOf.tries fun result => ?_
    cases result with
    | ok outcome => exact .pure fun _ _ => trivial
    | error fault => exact (takes_diagnose fault).bind fun _ => .pure fun _ _ => trivial
  obtain ⟨steps, -⟩ := own m ⟨rfl, hm⟩
  exact ⟨steps, Own.nameless steps hm⟩

/-- Two ways to execute a node go on alike from where its execution has begun, and as its route
says. -/
def Conforms (s : Setting) (v : Node) (m : Machine) (x y : RunM Flow) : Prop :=
  ∀ m', Prepares v m m' → SameValues m m' → m'.Nameless →
    x.run m' = y.run m' ∧ ∃ inner m₁, Works s v m (inner ++ s.flowRoute v (x.run m').1) m₁ ∧
      Walks (traversal s) s.toWorkspace m₁ inner (x.run m').2

theorem leads_proceed {m : Machine}
    (h : ∀ kind ∈ Kind.ofName? v.kind, kind.branches = false ∨ kind.loops) :
    s.Leads s.maxLoopIterations m.outputs.contains v (s.flowRoute v .proceed) :=
  .all h

theorem conforms_yields {m : Machine} {x : ExceptT Fault RunM Flow}
    (h : Yields s v m.outputs.contains (Knows m.outputs) x)
    (hk : ∀ kind ∈ Kind.ofName? v.kind, kind.branches = false ∨ kind.loops) :
    Conforms s v m (attempt v x) (attempt v x) := by
  intro m' steps same hm
  obtain ⟨flow, performed⟩ := (h m' ⟨same.outputs.symm, hm⟩).performed
  refine ⟨rfl, .stop, _, ⟨performed.head steps, flow ▸ leads_proceed hk, fun hk' hd => ?_⟩, .stop⟩
  rcases hk _ hk' with hb | hl
  · exact absurd (Kind.branches_of_decides hd) (by simp [hb])
  · exact absurd hl (by simp [Kind.not_loops_of_decides hd])

theorem products_of_branches {kind : Kind} (hk : Kind.ofName? v.kind = some kind)
    (hb : kind.branches) : s.products v = [] := by
  refine Workspace.products_eq_nil fun kind' hk' => ?_
  obtain rfl : kind = kind' := Option.some.inj (hk.symm.trans hk')
  cases kind with
  | ifThen | condition | switch | whileLoop | forLoop => exact ⟨rfl, nofun⟩
  | _ => cases hb

theorem conforms_decision {m : Machine} {kind : Kind} (visit visit' : Node → RunM Unit)
    (hk : Kind.ofName? v.kind = some kind) (hd : kind.decides) :
    Conforms s v m (attempt v (Execute.builtin kind s visit v))
      (attempt v (Execute.builtin kind s visit' v)) := by
  have same : Execute.builtin kind s visit v = Execute.builtin kind s visit' v := by
    cases kind with
    | ifThen | condition | switch => rfl
    | _ => cases hd
  rw [← same]
  intro m' steps values hm
  obtain ⟨prepares, among⟩ := tries_choice (s := s) (v := v) hd m' ⟨values.outputs.symm, hm⟩
  have chosen := (attempts_choice (s := s) (v := v) hd m m' values).1
  have resolves := resolves_attempt (s := s) (v := v) hd visit m'
  generalize (s.choice v kind).run.run m' = choice at prepares among chosen resolves
  generalize (attempt v (Execute.builtin kind s visit v)).run m' = ending at resolves
  obtain ⟨own, decided⟩ := Resolves.decided resolves (steps.trans prepares) chosen
  have performed : Performed s v (s.results m.outputs.contains v) m ending.2 :=
    own.performed (products_of_branches hk (Kind.branches_of_decides hd))
  refine ⟨rfl, .stop, _, ⟨performed, ?_, fun hk' _ => ?_⟩, .stop⟩
  · cases resolves with
    | follows port =>
      obtain ⟨hp, ho⟩ := among port rfl
      exact .choice hk hd ho hp
    | fails => exact .nowhere hk hd
  · obtain rfl := Option.some.inj (hk.symm.trans hk')
    exact decided

/-- A loop tells how often it has gone round, and leads on by its second output. -/
theorem counted_run (body : RunM Nat) (text : Nat → String) (m : Machine) :
    (do
      let count ← body
      trace (text count)
      return .follow 1 : ExceptT Fault RunM Flow).run.run m =
    (.ok (.follow 1), (body.run m).2.logged [.trace (text (body.run m).1)]) := by
  change (body >>= fun count => trace (text count) >>= fun _ =>
    (pure (Except.ok (Flow.follow 1)) : RunM (Except Fault Flow))).run m = _
  rw [StateT.run_bind]
  change (trace _ >>= fun _ => pure _).run _ = _
  rw [StateT.run_bind, trace, log_run]
  rfl

theorem attempt_counted (body : RunM Nat) (text : Nat → String) (m : Machine) :
    (attempt v (do
      let count ← body
      trace (text count)
      return .follow 1 : ExceptT Fault RunM Flow)).run m =
    (.follow 1, (body.run m).2.logged [.trace (text (body.run m).1)]) := by
  unfold attempt
  rw [StateT.run_bind, counted_run]
  rfl

theorem conforms_loop {m : Machine} {kind : Kind} {visit visit' : Node → RunM Unit}
    (h : ∀ u ∈ s.graph.nodes.toList,
      Follows s m.visited.visited (visit u) (visit' u) (.visit u .stop))
    (hn : v ∈ s.graph.nodes.toList) (hk : Kind.ofName? v.kind = some kind) (hl : kind.loops)
    {α : Type} {test : α → RunM Bool}
    {next : α → α} {state : α} (text : Nat → String)
    (ht : ∀ state, Takes (Operation v [] true) Machine.Nameless (test state) fun _ =>
      Machine.Nameless) :
    Conforms s v m
      (attempt v (do
        let count ← Execute.repeatBody s visit v test next s.maxLoopIterations 0 state
        trace (text count)
        return .follow 1 : ExceptT Fault RunM Flow))
      (attempt v (do
        let count ← Execute.repeatBody s visit' v test next s.maxLoopIterations 0 state
        trace (text count)
        return .follow 1 : ExceptT Fault RunM Flow)) := by
  intro m' steps _ hm
  have performed : Performed s v (s.results m.outputs.contains v) m m' :=
    (Own.performed .refl (products_of_branches hk (Kind.branches_of_loops hl))).head steps
  have hsub : m.visited.visited ⊆ m'.visited.visited := by
    rw [performed.own.visited_eq]
    exact List.Subset.refl _
  obtain ⟨he, count, hc, hw⟩ := repeatBody_rounds h hn ⟨kind, hk, hl⟩ next ht s.maxLoopIterations 0
    state m' hsub hm
  rw [attempt_counted, attempt_counted, he]
  rw [he] at hw
  refine ⟨rfl, _, m', ⟨performed, .rounds hk hl hc, fun hk' hd => ?_⟩, ?_⟩
  · obtain rfl := Option.some.inj (hk.symm.trans hk')
    exact absurd hl (by simp [Kind.not_loops_of_decides hd])
  have quiet (text : String) : (Event.trace text).isQuiet := rfl
  rw [← Route.append_stop (Route.times _ count)]
  exact hw.append (.pause ⟨v, hn, ⟨kind, hk, hl⟩, .single (.tell _ (quiet _))⟩ .stop)

theorem conforms_whileLoop {m : Machine} {visit visit' : Node → RunM Unit}
    (h : ∀ u ∈ s.graph.nodes.toList,
      Follows s m.visited.visited (visit u) (visit' u) (.visit u .stop))
    (hn : v ∈ s.graph.nodes.toList) (hk : Kind.ofName? v.kind = some .whileLoop) :
    Conforms s v m (attempt v (Execute.whileLoop s visit v))
      (attempt v (Execute.whileLoop s visit' v)) :=
  conforms_loop h hn hk rfl (fun count => s!"WhileLoop ran {count} iterations") fun _ => takes_holds

theorem conforms_forLoop {m : Machine} {visit visit' : Node → RunM Unit}
    (h : ∀ u ∈ s.graph.nodes.toList,
      Follows s m.visited.visited (visit u) (visit' u) (.visit u .stop))
    (hn : v ∈ s.graph.nodes.toList) (hk : Kind.ofName? v.kind = some .forLoop) :
    Conforms s v m (attempt v (Execute.forLoop s visit v))
      (attempt v (Execute.forLoop s visit' v)) := by
  unfold Execute.forLoop
  dsimp only
  split
  · rw [Tries.throw_bind, Tries.throw_bind]
    refine conforms_yields (.throw _) fun kind hk' => .inr ?_
    obtain rfl := Option.some.inj (hk.symm.trans hk')
    rfl
  · exact conforms_loop h hn hk rfl (fun count => s!"ForLoop ran {count} iterations")
      fun _ => .pure fun _ hm => hm

theorem conforms_builtin {m : Machine} {kind : Kind} {visit visit' : Node → RunM Unit}
    (h : ∀ u ∈ s.graph.nodes.toList,
      Follows s m.visited.visited (visit u) (visit' u) (.visit u .stop))
    (hn : v ∈ s.graph.nodes.toList) (hk : Kind.ofName? v.kind = some kind) :
    Conforms s v m (attempt v (Execute.builtin kind s visit v))
      (attempt v (Execute.builtin kind s visit' v)) := by
  cases hb : kind.branches with
  | false =>
    have same : Execute.builtin kind s visit v = Execute.builtin kind s visit' v := by
      cases kind with
      | ifThen | condition | switch | whileLoop | forLoop => cases hb
      | _ => rfl
    rw [← same]
    refine conforms_yields (yields_leaf visit hk hb) fun kind' hk' => .inl ?_
    obtain rfl : kind = kind' := Option.some.inj (hk.symm.trans hk')
    exact hb
  | true =>
    cases kind with
    | ifThen | condition | switch => exact conforms_decision visit visit' hk rfl
    | whileLoop => exact conforms_whileLoop h hn hk
    | forLoop => exact conforms_forLoop h hn hk
    | _ => cases hb

end

/-! ### The built-in interpreter -/

/-- The built-in interpreter with some bound on the rounds of loops, in some world. -/
abbrev builtin (maxLoopIterations : Nat) (exchange : Http.Exchange) (draws : Draws) :
    Interpreter :=
  { maxLoopIterations, exchange, draws }

namespace Interpreter

variable {limit : Nat} {exchange : Http.Exchange} {draws : Draws}

theorem executorOf_builtin (kind : String) :
    (builtin limit exchange draws).executorOf kind = match Kind.ofName? kind with
      | some kind => Execute.builtin kind
      | none => fun _ _ _ => throw (.unsupported "node kind" kind) := by
  have := Table.get?_ofKinds Execute.builtin kind
  unfold executorOf
  rw [this]
  cases Kind.ofName? kind <;> rfl

/-- Enters a node in a state. -/
def mark (id : NodeId) (m : Machine) : Machine :=
  { m with visited := ⟨id :: m.visited.visited⟩ }

theorem enter_run (id : NodeId) (m : Machine) :
    (enter id).run m = if id ∈ m.visited.visited then (false, m) else (true, mark id m) := by
  change ((m.visited.enter id).1, { m with visited := (m.visited.enter id).2 }) = _
  by_cases h : id ∈ m.visited.visited <;> simp [VisitSet.enter, VisitSet.contains, h, mark]

theorem execute_run (i : Interpreter) (s : Setting) (visit : Node → RunM Unit) (v : Node)
    (m : Machine) :
    (i.execute s visit v).run (mark v.id m) =
      (attempt v (i.executorOf v.kind s visit v)).run ((began v m).logged [introduction v]) := by
  unfold execute
  rw [StateT.run_bind, log_run]
  change (trace _ >>= fun _ => attempt v (i.executorOf v.kind s visit v)).run (began v m) = _
  rw [StateT.run_bind, trace, log_run]
  rfl

theorem conforms_executorOf {s : Setting} {v : Node} {m : Machine} {visit visit' : Node → RunM Unit}
    (h : ∀ u ∈ s.graph.nodes.toList,
      Follows s m.visited.visited (visit u) (visit' u) (.visit u .stop))
    (hn : v ∈ s.graph.nodes.toList) :
    Conforms s v m (attempt v ((builtin limit exchange draws).executorOf v.kind s visit v))
      (attempt v ((builtin limit exchange draws).executorOf v.kind s visit' v)) := by
  rw [executorOf_builtin]
  cases hk : Kind.ofName? v.kind with
  | some kind => exact conforms_builtin h hn hk
  | none => exact conforms_yields (.throw _) fun kind hk' => absurd hk' (by simp [hk])

/-- The interpreter works as its conduct says. -/
theorem governs (limit : Nat) (exchange : Http.Exchange) (draws : Draws) (s : Setting) :
    (traversal s).Governs s.toWorkspace enter mark ((builtin limit exchange draws).execute s) where
  lawful := traversal_lawful s
  enter_seen h := (enter_run _ _).trans (if_pos h)
  enter_new h := (enter_run _ _).trans (if_neg h)
  act {visit visit' v m} hn hv hm h := by
    rw [execute_run, execute_run]
    exact conforms_executorOf (m := began v m) h hn _ (.single (.tell _ rfl)) ⟨rfl, rfl⟩ hm

/-- The state of a run is reached by a walk from the empty state over all entry nodes. -/
theorem walks_machine (limit : Nat) (exchange : Http.Exchange) (draws : Draws)
    (graph : Graph) :
    Walks (traversal ((builtin limit exchange draws).setting graph))
      ((builtin limit exchange draws).setting graph).toWorkspace {}
      (.ofNodes ((builtin limit exchange draws).setting graph).entryNodes)
      ((builtin limit exchange draws).machine graph) := by
  have h := forM_walkOr_performs (fun _ => pure ()) (governs limit exchange draws
    ((builtin limit exchange draws).setting graph)) le_rfl
    graph.card_ids_le
  have start := h {} (List.nil_subset _) rfl
  rw [start.1] at start
  exact start.2

end Interpreter

end Script

end ScriptGraph
