import ScriptGraph.Proofs.Script.Failing
import ScriptGraph.Proofs.Script.Order

/-! # Rounds of a counting loop

Without decisions the walk of a run does not depend on values: from two states in which the same
nodes count as entered, the same nodes are executed. Behind each round of a loop the same nodes
count as entered as before it. So all rounds of a counting loop execute the same nodes.
-/

namespace ScriptGraph.Script

open Json (Value)

variable {s : Setting} {v : Node} {kind : Kind}

/-! ### Executions that lead everywhere -/

/-- If the program succeeds, every output is followed. -/
def GoesOn (x : ExceptT Fault RunM Flow) : Prop :=
  ∀ m flow, (x.run.run m).1 = .ok flow → flow = .proceed

namespace GoesOn

theorem pure : GoesOn (Pure.pure .proceed) :=
  fun _ _ h => (Except.ok.inj h).symm

theorem throw (fault : Fault) : GoesOn (MonadExcept.throw fault) := by
  intro m flow h
  cases h

theorem bind {α : Type} {x : ExceptT Fault RunM α} {f : α → ExceptT Fault RunM Flow}
    (h : ∀ a, GoesOn (f a)) : GoesOn (x >>= f) := by
  intro m flow hf
  rw [ExceptT.run_bind, StateT.run_bind] at hf
  generalize x.run.run m = result at hf
  obtain ⟨result, m₁⟩ := result
  cases result with
  | ok a => exact h a m₁ flow hf
  | error fault => cases hf

theorem check {c : Prop} [Decidable c] {fault : Fault} {y : Unit → ExceptT Fault RunM Flow}
    (h : GoesOn (y ())) : GoesOn (if c then MonadExcept.throw fault >>= y else y ()) := by
  split
  · exact throw fault
  · exact h

end GoesOn

theorem goesOn_var (visit : Node → RunM Unit) : GoesOn (Execute.var s visit v) := by
  unfold Execute.var
  cases (s.props v).nonEmpty? "name" with
  | none => exact .throw _
  | some name =>
    -- Every way through the node ends by showing the variable.
    have shows {f : Option Value → ExceptT Fault RunM Flow} (hn : f none = pure .proceed)
        (hs : ∀ value, f (some value) = (do
          trace s!"Variable {name} = {display value}"
          return .proceed)) : GoesOn (liftM (variableValue? name) >>= f) := by
      refine .bind fun value => ?_
      cases value with
      | none => rw [hn]; exact .pure
      | some value => rw [hs]; exact .bind fun _ => .pure
    refine .bind fun assigned => ?_
    cases assigned with
    | some assigned => exact .bind fun _ => shows rfl fun _ => rfl
    | none =>
      refine .bind fun value => ?_
      dsimp only
      split
      · exact .bind fun _ => shows rfl fun _ => rfl
      · exact shows rfl fun _ => rfl

theorem goesOn_httpRequest (visit : Node → RunM Unit) :
    GoesOn (Execute.httpRequest s visit v) := by
  unfold Execute.httpRequest
  dsimp only
  refine .check (.bind fun _ => .bind fun _ => .bind fun _ => .bind fun _ => .bind fun _ => ?_)
  exact .bind fun _ => .bind fun _ => .bind fun _ => .bind fun _ => .pure

theorem goesOn_convert (c : Execute.Conversion) (visit : Node → RunM Unit) :
    GoesOn (Execute.convert c s visit v) :=
  .bind fun _ => .bind fun _ => .bind fun _ => .bind fun _ => .pure

/-- Executors that do not branch lead everywhere. -/
theorem goesOn_leaf (visit : Node → RunM Unit) (hb : kind.branches = false) :
    GoesOn (Execute.builtin kind s visit v) := by
  cases kind with
  | onStart => exact .bind fun _ => .pure
  | constant => exact .pure
  | waitForSeconds => exact .check (.check (.bind fun _ => .bind fun _ => .pure))
  | var => exact goesOn_var visit
  | mathOperation =>
    exact .bind fun _ => .bind fun _ => .bind fun _ => .bind fun _ => .bind fun _ => .pure
  | random => exact .bind fun _ => .bind fun _ => .bind fun _ => .pure
  | arrayOperation =>
    refine .bind fun value => ?_
    dsimp only
    split
    · exact .bind fun _ => .bind fun _ => .pure
    · exact .throw _
  | objectOperation =>
    refine .bind fun value => ?_
    dsimp only
    split
    · exact .bind fun _ => .bind fun _ => .pure
    · exact .throw _
  | function => exact .throw _
  | log => exact .bind fun _ => .bind fun _ => .pure
  | httpRequest => exact goesOn_httpRequest (s := s) (v := v) visit
  | jsonParse | jsonStringify | base64Encode | base64Decode =>
    exact goesOn_convert (s := s) (v := v) _ visit
  | ifThen | condition | switch | whileLoop | forLoop => cases hb

/-! ### Executions that leave the walk alone -/

/-- The state is the same, and certain nodes have been entered and executed in it. -/
def Keeping (visited : VisitSet) (order : List NodeId) (m m' : Machine) : Prop :=
  m = m' ∧ m.visited = visited ∧ m.executed = order

section

variable {visited : VisitSet} {order : List NodeId}

theorem keeping_of_run {α : Type} {x : RunM α}
    (h : ∀ m, (x.run m).2.visited = m.visited ∧ (x.run m).2.executed = m.executed) :
    Simulates (Keeping visited order) x x := by
  rintro m _ ⟨rfl, rfl, rfl⟩
  exact ⟨rfl, rfl, h m⟩

theorem keeping_log {e : Event} (h : nodesOf [e] = []) :
    Simulates (Keeping visited order) (log e) (log e) :=
  keeping_of_run fun m => by
    rw [log_run]
    exact ⟨rfl, m.executed_logged_of_silent h⟩

theorem keeping_record (v : Node) (port : Nat) (value : Value) :
    Simulates (Keeping visited order) (record v port value) (record v port value) :=
  keeping_of_run fun m => by
    rw [record_run]
    exact ⟨rfl, m.executed_logged_of_silent rfl⟩

theorem keeping_setVariable (name : String) (value : Value) :
    Simulates (Keeping visited order) (setVariable name value) (setVariable name value) :=
  keeping_of_run fun m => by
    rw [setVariable_run]
    exact ⟨rfl, m.executed_logged_of_silent rfl⟩

/-- Nothing that executors are made of enters or executes a node. -/
theorem similar_keeping (s : Setting) (v : Node) : s.Similar (Keeping visited order) s v v where
  props := .refl _
  inputName _ := rfl
  limit := rfl
  log he := keeping_log (nodesOf_quiet he)
  diagnose _ := keeping_log rfl
  record := keeping_record v
  recordPrimary value := by
    unfold Setting.recordPrimary
    split
    · exact keeping_record v _ value
    · exact .pure ()
  variableValue? _ := keeping_of_run fun _ => ⟨rfl, rfl⟩
  setVariable := keeping_setVariable
  input {index} _ := keeping_of_run fun m => by
    rw [s.input_run]
    exact ⟨(FirstReads.withProducer index).visited, (FirstReads.withProducer index).executed⟩
  writeBack _ value := by
    unfold Setting.writeBack
    split
    · exact keeping_setVariable _ value
    · exact .pure ()
  draw := keeping_of_run fun _ => ⟨rfl, rfl⟩
  send request := keeping_of_run fun m => by
    rw [send_run]
    exact ⟨rfl, Machine.executed_logged_of_silent _ rfl⟩

theorem keeping_iterate (v : Node) (port : Nat) :
    Simulates (Keeping visited order) (s.iterate (fun _ => pure ()) v port)
      (s.iterate (fun _ => pure ()) v port) := by
  have branch : Simulates (Keeping visited order) (s.branch (fun _ => pure ()) v port)
      (s.branch (fun _ => pure ()) v port) := .forM fun _ => .pure ()
  rintro m _ ⟨rfl, rfl, rfl⟩
  rw [iterate_run]
  exact ⟨rfl, rfl, rfl, (branch (m.logged _) _ ⟨rfl, rfl, executed_iteration m _⟩).2.2.2⟩

end

/-- Whatever the state, the execution follows every output, and by itself it neither enters nor
executes a node. -/
def PassesOn (v : Node) (x : ExceptT Fault RunM Flow) : Prop :=
  ∀ m, ((attempt v x).run m).1 = .proceed ∧ ((attempt v x).run m).2.visited = m.visited ∧
    ((attempt v x).run m).2.executed = m.executed

theorem passesOn_of_keeping {x : ExceptT Fault RunM Flow} (hx : GoesOn x)
    (h : ∀ visited order, Attempts (Keeping visited order) x x) : PassesOn v x := by
  intro m
  have flow := hx m
  obtain ⟨-, -, hv, he⟩ := h m.visited m.executed m m ⟨rfl, rfl, rfl⟩
  unfold attempt
  rw [StateT.run_bind]
  generalize x.run.run m = result at flow hv he
  obtain ⟨result, m₁⟩ := result
  cases result with
  | ok flow' =>
    obtain rfl := flow flow' rfl
    exact ⟨rfl, hv, he⟩
  | error fault =>
    change _ = _ ∧ ((diagnose v fault).run m₁).2.visited = _ ∧
      ((diagnose v fault).run m₁).2.executed = _
    rw [diagnose_run, Machine.executed_logged_of_silent _ rfl, he]
    exact ⟨rfl, hv, rfl⟩

theorem passesOn_leaf (visit : Node → RunM Unit) (hb : kind.branches = false) :
    PassesOn v (Execute.builtin kind s visit v) := by
  have same : Execute.builtin kind s visit v = Execute.builtin kind s (fun _ => pure ()) v := by
    cases kind with
    | ifThen | condition | switch | whileLoop | forLoop => cases hb
    | _ => rfl
  rw [same]
  exact passesOn_of_keeping (goesOn_leaf _ hb) fun _ _ =>
    attempts_builtin (similar_keeping s v) (keeping_iterate v) kind

/-! ### Walks without decisions -/

/-- The same nodes count as entered, and from certain moments on the same nodes have been executed.
-/
def Abreast (order order' : List NodeId) (m m' : Machine) : Prop :=
  m.visited = m'.visited ∧ ∃ more, m.executed = order ++ more ∧ m'.executed = order' ++ more

section

variable {order order' : List NodeId} {m m' : Machine}

theorem Abreast.logged (h : Abreast order order' m m') (e : Event) :
    Abreast order order' (m.logged [e]) (m'.logged [e]) := by
  obtain ⟨same, more, he, he'⟩ := h
  refine ⟨same, more ++ nodesOf [e], ?_, ?_⟩
  · rw [Machine.executed_logged, he, List.append_assoc]
  · rw [Machine.executed_logged, he', List.append_assoc]

theorem abreast_log (e : Event) : Simulates (Abreast order order') (log e) (log e) := by
  intro m m' h
  rw [log_run, log_run]
  exact ⟨rfl, h.logged e⟩

theorem tells_abreast (s : Setting) (v : Node) : s.Tells (Abreast order order') s v v where
  limit := rfl
  log _ := abreast_log _
  diagnose _ := abreast_log _

theorem abreast_enter (id : NodeId) :
    Simulates (Abreast order order') (Interpreter.enter id) (Interpreter.enter id) := by
  intro m m' h
  rw [Interpreter.enter_run, Interpreter.enter_run, h.1]
  split
  · exact ⟨rfl, h⟩
  · exact ⟨rfl, by rw [Interpreter.mark, Interpreter.mark, h.1], h.2⟩

theorem abreast_iterate {visit visit' : Node → RunM Unit} {port : Nat}
    (h : Simulates (Abreast order order') (s.branch visit v port) (s.branch visit' v port)) :
    Simulates (Abreast order order') (s.iterate visit v port) (s.iterate visit' v port) := by
  intro m m' hm
  obtain ⟨-, -, round⟩ := h _ _ (hm.logged (.iteration ⟨v.id, port⟩))
  rw [iterate_run, iterate_run]
  exact ⟨rfl, hm.1, round⟩

/-- An execution that leaves the walk alone does so from each of two states. -/
theorem PassesOn.abreast {x y : ExceptT Fault RunM Flow} (hx : PassesOn v x) (hy : PassesOn v y) :
    Simulates (Abreast order order') (attempt v x) (attempt v y) := by
  intro m m' h
  obtain ⟨flow, hv, he⟩ := hx m
  obtain ⟨flow', hv', he'⟩ := hy m'
  refine ⟨flow.trans flow'.symm, ?_⟩
  unfold Abreast
  rw [hv, he, hv', he']
  exact h

end

/-- Control does not come to a decision, nor to a loop with a condition. -/
def Undecided (w : Workspace) (v : Node) : Prop :=
  ∀ u, w.LeadsTo v u → ∀ kind ∈ Kind.ofName? u.kind, kind.branches = false ∨ kind = .forLoop

theorem Undecided.successor {w : Workspace} {u : Node} {port : Option Nat} (h : Undecided w v)
    (hu : u ∈ w.controlSuccessors v port) : Undecided w u := by
  have step : u ∈ w.controlSuccessors v none := by
    cases port with
    | none => exact hu
    | some port => exact Workspace.controlSuccessors_subset _ hu
  exact fun u' leads => h u' (.head step leads)

theorem Undecided.of_closed {w : Workspace} {ids : List NodeId}
    (hc : ∀ u ∈ w.graph.nodes.toList, u.id ∈ ids →
      ∀ u' ∈ w.controlSuccessors u none, u'.id ∈ ids)
    (hk : ∀ u ∈ w.graph.nodes.toList, u.id ∈ ids →
      ∀ kind ∈ Kind.ofName? u.kind, kind.branches = false ∨ kind = .forLoop) {u : Node}
    (hu : u ∈ w.graph.nodes.toList) (hid : u.id ∈ ids) : Undecided w u := by
  intro u' leads
  have inside : u' ∈ w.graph.nodes.toList ∧ u'.id ∈ ids := by
    induction leads with
    | refl => exact ⟨hu, hid⟩
    | tail _ step ih =>
      exact ⟨w.mem_nodes_of_mem_controlSuccessors step, hc _ ih.1 ih.2 _ step⟩
  exact hk u' inside.1 inside.2

namespace Interpreter

variable {limit : Nat} {exchange : Http.Exchange} {draws : Draws} {order order' : List NodeId}
  {visit visit' : Node → RunM Unit}

theorem passesOn_executorOf (visit : Node → RunM Unit)
    (hb : ∀ kind ∈ Kind.ofName? v.kind, kind.branches = false) :
    PassesOn v ((builtin limit exchange draws).executorOf v.kind s visit v) := by
  rw [executorOf_builtin]
  cases hk : Kind.ofName? v.kind with
  | some kind => exact passesOn_leaf visit (hb kind hk)
  | none => exact passesOn_of_keeping (.throw _) fun _ _ => .throw _

/-- Where control comes to no decision, a walk executes the same nodes from both states. -/
theorem abreast_walk (limit : Nat) (exchange : Http.Exchange) (draws : Draws) (depth : Nat)
    (hv : Undecided s.toWorkspace v) :
    Simulates (Abreast order order')
      (walk s.toWorkspace enter ((builtin limit exchange draws).execute s) depth v)
      (walk s.toWorkspace enter ((builtin limit exchange draws).execute s) depth v) := by
  refine .walk₂ (N := fun u u' => u = u' ∧ Undecided s.toWorkspace u) ?_ ?_ ?_ depth v v ⟨rfl, hv⟩
  · rintro u _ port ⟨rfl, hu⟩
    exact List.forall₂_same.mpr fun u' hu' => ⟨rfl, hu.successor hu'⟩
  · rintro u _ ⟨rfl, -⟩
    exact abreast_enter u.id
  · rintro visit visit' visits u _ ⟨rfl, hu⟩
    -- The node either passes on, or is a loop that counts alike and whose rounds go side by side.
    refine simulates_execute (abreast_log _) (abreast_log _) ?_
    have passes (hb : ∀ kind ∈ Kind.ofName? u.kind, kind.branches = false) :
        Simulates (Abreast order order')
          (attempt u ((builtin limit exchange draws).executorOf u.kind s visit u))
          (attempt u ((builtin limit exchange draws).executorOf u.kind s visit' u)) :=
      (passesOn_executorOf visit hb).abreast (passesOn_executorOf visit' hb)
    cases hk : Kind.ofName? u.kind with
    | none => exact passes fun kind hk' => absurd hk' (by simp [hk])
    | some kind =>
      rcases hu u .refl kind hk with hb | rfl
      · refine passes fun kind' hk' => ?_
        obtain rfl : kind = kind' := Option.some.inj (hk.symm.trans hk')
        exact hb
      · have branches (port : Nat) : Simulates (Abreast order order')
            (s.branch visit u port) (s.branch visit' u port) :=
          .forM₂ (List.forall₂_same.mpr fun u' hu' => ⟨rfl, hu.successor hu'⟩) visits
        rw [executorOf_builtin, hk]
        exact simulates_attempt
          (attempts_forLoop (fun port => abreast_iterate (branches port)) (.refl _)
            (tells_abreast s u)) fun _ => abreast_log _

end Interpreter

/-! ### Rounds -/

/-- So many rounds of a loop. -/
def Setting.rounds (s : Setting) (visit : Node → RunM Unit) (l : Node) : Nat → RunM Unit
  | 0 => pure ()
  | count + 1 => do
    s.iterate visit l 0
    s.rounds visit l count

/-- Whenever certain nodes count as entered, a round of the loop executes the nodes of a list, and
the same nodes count as entered behind it. -/
def Setting.RunsBody (s : Setting) (visit : Node → RunM Unit) (l : Node) (visited : VisitSet)
    (body : List NodeId) : Prop :=
  ∀ m : Machine, m.visited = visited → ((s.iterate visit l 0).run m).2.visited = visited ∧
    ((s.iterate visit l 0).run m).2.executed = m.executed ++ body

section

variable {l : Node} {visit : Node → RunM Unit} {visited : VisitSet} {body : List NodeId}

theorem exists_runsBody (h : ∀ order order', Simulates (Abreast order order')
    (s.iterate visit l 0) (s.iterate visit l 0)) (visited : VisitSet) :
    ∃ body, s.RunsBody visit l visited body := by
  refine ⟨((s.iterate visit l 0).run { visited }).2.executed, fun m hm => ?_⟩
  have first : Abreast [] m.executed { visited } m :=
    ⟨hm.symm, [], rfl, (List.append_nil _).symm⟩
  obtain ⟨-, -, more, one, other⟩ := h [] m.executed { visited } m first
  refine ⟨?_, ?_⟩
  · rw [iterate_run]
    exact hm
  · rw [one]
    exact other

/-- Each of several rounds executes the same nodes. -/
theorem Setting.RunsBody.rounds (h : s.RunsBody visit l visited body) (count : Nat) (m : Machine)
    (hm : m.visited = visited) :
    ((s.rounds visit l count).run m).2.visited = visited ∧
      ((s.rounds visit l count).run m).2.executed =
        m.executed ++ (List.replicate count body).flatten := by
  induction count generalizing m with
  | zero => exact ⟨hm, (List.append_nil _).symm⟩
  | succ count ih =>
    obtain ⟨same, round⟩ := h m hm
    obtain ⟨same', rounds⟩ := ih _ same
    refine ⟨same', ?_⟩
    rw [List.replicate_succ, List.flatten_cons, ← List.append_assoc, ← round]
    exact rounds

end

section

variable (s) (l : Node)

/-- A loop whose test does not look at the state goes through some number of rounds, and may have
something to tell in the end. -/
theorem repeatBody_eq_rounds {α : Type} (test : α → Bool) (next : α → α) (remaining done : Nat)
    (state : α) : ∃ count ≤ remaining, ∃ es, (∀ e ∈ es, e.IsOwn l [] true) ∧ ∀ visit m,
      ((Execute.repeatBody s visit l (fun a => return test a) next remaining done state).run m).2 =
        ((s.rounds visit l count).run m).2.logged es := by
  induction remaining generalizing done state with
  | zero =>
    cases more : test state with
    | true =>
      refine ⟨0, le_rfl, [.failure ⟨l.id, l.kind, .loopLimit s.maxLoopIterations⟩],
        List.forall_mem_singleton.mpr (.report _ rfl), fun visit m => ?_⟩
      unfold Execute.repeatBody
      rw [pure_bind, more, if_pos rfl]
      exact congrArg Prod.snd (diagnose_run l _ m)
    | false =>
      refine ⟨0, le_rfl, [], fun _ he => absurd he List.not_mem_nil, fun visit m => ?_⟩
      unfold Execute.repeatBody
      rw [pure_bind, more]
      exact (Machine.logged_nil m).symm
  | succ remaining ih =>
    cases more : test state with
    | true =>
      obtain ⟨count, hc, es, own, run⟩ := ih (done + 1) (next state)
      refine ⟨count + 1, Nat.succ_le_succ hc, es, own, fun visit m => ?_⟩
      unfold Execute.repeatBody
      rw [pure_bind, more, if_pos rfl]
      exact run visit _
    | false =>
      refine ⟨0, Nat.zero_le _, [], fun _ he => absurd he List.not_mem_nil, fun visit m => ?_⟩
      unfold Execute.repeatBody
      rw [pure_bind, more]
      exact (Machine.logged_nil m).symm

/-- How many rounds a counting loop goes through does not depend on the state. -/
theorem forLoop_eq_rounds : ∃ count ≤ s.maxLoopIterations, ∀ visit m, ∃ es,
    (∀ e ∈ es, e.IsOwn l [] true) ∧
      ((Execute.forLoop s visit l).run.run m).2 = ((s.rounds visit l count).run m).2.logged es := by
  unfold Execute.forLoop
  dsimp only
  split
  · refine ⟨0, Nat.zero_le _, fun visit m => ⟨[], fun _ he => absurd he List.not_mem_nil, ?_⟩⟩
    exact (Machine.logged_nil m).symm
  · obtain ⟨count, hc, es, own, run⟩ := repeatBody_eq_rounds s l _ _ s.maxLoopIterations 0 _
    refine ⟨count, hc, fun visit m => ?_⟩
    rw [counted_run _ (fun count => s!"ForLoop ran {count} iterations"), run visit m,
      ← Machine.logged_append]
    refine ⟨es ++ [.trace _], ?_, rfl⟩
    exact List.forall_mem_append.mpr ⟨own, List.forall_mem_singleton.mpr (.quiet rfl)⟩

end

/-- An execution of the loop goes round so often, and tells of it by itself. On each round it
executes the nodes of a list. In the end the same nodes count as entered as before. -/
structure Setting.Repeats (s : Setting) (visit : Node → RunM Unit) (l : Node) (count : Nat)
    (body : List NodeId) (m m' : Machine) : Prop where
  rounds : ∃ es, (∀ e ∈ es, e.IsOwn l [] true) ∧
    m' = ((s.rounds visit l count).run m).2.logged es
  executed : m'.executed = m.executed ++ (List.replicate count body).flatten
  visited : m'.visited = m.visited

/-- If the body of a counting loop comes to no decision and to no loop with a condition, all rounds
execute the same nodes, whatever becomes of them. Which nodes they are depends on nothing but the
nodes that count as entered when the execution of the loop begins. -/
theorem forLoop_repeats (registry : Registry) (limit : Nat) (exchange : Http.Exchange)
    (draws : Draws) (debug : Bool) (graph : Graph) :
    let i : Interpreter := { registry, maxLoopIterations := limit, exchange, draws, debug }
    let s := i.setting graph
    let visit (depth : Nat) := walk s.toWorkspace Interpreter.enter (i.execute s) depth
    ∀ l, Kind.ofName? l.kind = some .forLoop →
      (∀ u ∈ s.controlSuccessors l (some 0), Undecided s.toWorkspace u) →
      ∃ count ≤ limit, ∀ depth visited, ∃ body, ∀ m : Machine, m.visited = visited →
        s.Repeats (visit depth) l count body m
          ((i.executorOf l.kind s (visit depth) l).run.run m).2 := by
  intro i s visit l hl undecided
  -- Neither the registry nor the mode has a part in how nodes are executed.
  have executor : i.executorOf l.kind = Execute.forLoop := by
    change (builtin limit exchange draws).executorOf l.kind = _
    rw [Interpreter.executorOf_builtin, hl]
    rfl
  obtain ⟨count, hc, run⟩ := forLoop_eq_rounds s l
  refine ⟨count, hc, fun depth visited => ?_⟩
  have round (order order' : List NodeId) : Simulates (Abreast order order')
      (s.iterate (visit depth) l 0) (s.iterate (visit depth) l 0) := by
    refine abreast_iterate (.forM₂ (N := fun u u' => u = u' ∧ Undecided s.toWorkspace u)
      (List.forall₂_same.mpr fun u hu => ⟨rfl, undecided u hu⟩) ?_)
    rintro u _ ⟨rfl, hu⟩
    exact Interpreter.abreast_walk limit exchange draws depth hu
  obtain ⟨body, runs⟩ := exists_runsBody round visited
  refine ⟨body, fun m hm => ?_⟩
  obtain ⟨es, own, eq⟩ := run (visit depth) m
  obtain ⟨same, executed⟩ := runs.rounds count m hm
  rw [executor]
  refine ⟨⟨es, own, eq⟩, ?_, ?_⟩
  · rw [eq, Machine.executed_logged, Event.IsOwn.nodesOf_eq own, List.append_nil, executed]
  · rw [eq, hm]
    exact same

/-- A loop around a sum without inputs and a loop whose body leads back to it, and a decision behind
the loop. -/
def roundabout : Graph :=
  .ofLists
    [{ id := .ofNat 1, kind := Kind.onStart.name }, { id := .ofNat 2, kind := Kind.forLoop.name },
      { id := .ofNat 3, kind := Kind.mathOperation.name },
      { id := .ofNat 4, kind := Kind.forLoop.name }, { id := .ofNat 5, kind := Kind.log.name },
      { id := .ofNat 6, kind := Kind.ifThen.name }]
    [.between (.ofNat 1) 0 (.ofNat 2) 0, .between (.ofNat 2) 0 (.ofNat 3) 0,
      .between (.ofNat 3) 0 (.ofNat 4) 0, .between (.ofNat 4) 0 (.ofNat 5) 0,
      .between (.ofNat 5) 0 (.ofNat 4) 0, .between (.ofNat 2) 1 (.ofNat 6) 0]

theorem roundabout_repeats :
    let i := (builtin 3 .unreachable (.ofSeed 0)).withDebug true
    let s := i.setting roundabout
    let l : Node := { id := .ofNat 2, kind := Kind.forLoop.name }
    let m : Machine := { visited := ⟨[.ofNat 2, .ofNat 1]⟩ }
    let visit := walk s.toWorkspace Interpreter.enter (i.execute s) 4
    (s.controlSuccessors l (some 0)).map (·.id) = [.ofNat 3] ∧
      ∃ count ≤ 3, ∃ body, s.Repeats visit l count body m
        ((i.executorOf l.kind s visit l).run.run m).2 := by
  intro i s l m visit
  let inside : List NodeId := [.ofNat 3, .ofNat 4, .ofNat 5]
  have closed : ∀ u ∈ roundabout.nodes.toList, u.id ∈ inside →
      ∀ u' ∈ s.controlSuccessors u none, u'.id ∈ inside := by
    decide +kernel
  have kinds : ∀ u ∈ roundabout.nodes.toList, u.id ∈ inside → ∀ kind ∈ Kind.ofName? u.kind,
      kind.branches = false ∨ kind = .forLoop := by
    decide +kernel
  have body : ∀ u ∈ s.controlSuccessors l (some 0), u.id ∈ inside := by decide +kernel
  obtain ⟨count, hc, repeats⟩ := forLoop_repeats .builtin 3 .unreachable (.ofSeed 0) true roundabout
    l (by decide +kernel) fun u hu =>
      .of_closed closed kinds (s.mem_nodes_of_mem_controlSuccessors hu) (body u hu)
  obtain ⟨nodes, runs⟩ := repeats 4 m.visited
  exact ⟨by decide +kernel, count, hc, nodes, runs m rfl⟩

end ScriptGraph.Script
