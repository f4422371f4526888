import ScriptGraph.Proofs.Script.Debugging
import ScriptGraph.Proofs.Script.Order
import ScriptGraph.Proofs.Script.Reached

/-! # One branch of each decision

Where the control edges of a graph form a forest, a run comes to a node by one edge at most. Nothing
behind the outputs that a decision has not chosen is executed then, neither now nor later.
-/

namespace ScriptGraph

namespace Workspace

variable {w : Workspace} {limit : Nat} {has : PortRef → Bool} {v : Node} {r : Route}

/-- An execution of a node that is no loop leads to some of its successors, to none of them twice.
-/
theorem Leads.exists_nodes (h : w.Leads limit has v r)
    (hl : ∀ kind ∈ Kind.ofName? v.kind, kind.loops = false) :
    ∃ ns, r = .ofNodes ns ∧ ns.Subperm (w.controlSuccessors v none) := by
  cases h with
  | all => exact ⟨_, rfl, .refl _⟩
  | nowhere => exact ⟨[], rfl, List.nil_subperm⟩
  | @choice _ port =>
    refine ⟨_, rfl, ?_⟩
    simpa using flatMap_controlSuccessors_subperm (w := w) (List.nodup_singleton port)
  | rounds hk hloops => exact absurd hloops (by simp [hl _ hk])

theorem Fresh.perm {entered ahead ahead' : List NodeId} (h : w.Fresh entered ahead)
    (hp : ahead.Perm ahead') : w.Fresh entered ahead' := by
  unfold Fresh at h ⊢
  rwa [← Multiset.coe_eq_coe.mpr hp]

end Workspace

namespace Script

variable {s : Setting} {u v : Node} {m m' : Machine} {r : Route}

/-! ### Walks through a forest -/

section

variable (forest : s.BranchingForest)
include forest

theorem Works.fresh (h : Works s v (began v m) r m') (reachable : s.Reachable v)
    {ahead : List NodeId} (fresh : s.Fresh m.visited.visited (v.id :: ahead)) :
    ∃ ns, r = .ofNodes ns ∧ (∀ u ∈ ns, s.Reachable u) ∧
      s.Fresh m'.visited.visited (ns.map (·.id) ++ ahead) := by
  obtain ⟨ns, rfl, some⟩ := h.route.exists_nodes (forest.not_loops reachable)
  have entered : m'.visited.visited = v.id :: m.visited.visited :=
    congrArg VisitSet.visited h.own.visited_eq
  refine ⟨ns, rfl, fun u hu => .step reachable (some.subset hu), ?_⟩
  rw [entered]
  exact fresh.enter (Workspace.mem_nodes_of_reachable reachable)
    (fresh.not_mem List.mem_cons_self) some

theorem fresh_of_walks (h : Walks (traversal s) s.toWorkspace m r m') {ns : List Node}
    (hr : r = .ofNodes ns) (reachable : ∀ u ∈ ns, s.Reachable u) {ahead : List NodeId}
    (fresh : s.Fresh m.visited.visited (ns.map (·.id) ++ ahead)) :
    s.Fresh m'.visited.visited ahead := by
  induction h generalizing ns ahead with
  | stop =>
    cases ns with
    | nil => exact fresh
    | cons => cases hr
  | pause hp _ ih =>
    obtain ⟨_, _, _, own⟩ := hp
    rw [← Own.visited_eq own] at fresh
    exact ih hr reachable fresh
  | seen hv =>
    cases ns with
    | nil => cases hr
    | cons u ns =>
      obtain ⟨rfl, -⟩ := Route.visit.inj hr
      exact absurd hv (fresh.not_mem List.mem_cons_self)
  | enter _ _ hw _ _ ihi ihr =>
    cases ns with
    | nil => cases hr
    | cons u ns =>
      obtain ⟨rfl, hrest⟩ := Route.visit.inj hr
      obtain ⟨first, later⟩ := List.forall_mem_cons.mp reachable
      obtain ⟨inner, hi, below, fresh⟩ := Works.fresh forest hw first fresh
      exact ihr hrest later (ihi hi below fresh)
  | inside =>
    cases ns with
    | nil | cons => cases hr

/-- A walk executes a node: the states before, behind the work at the node and behind what the work
leads to, and the nodes that lie ahead then. -/
structure Visit (s : Setting) (v : Node) (ahead : List NodeId) (m₀ m₁ m₂ m' : Machine)
    (inner : Route) (rest : List Node) : Prop where
  new : v.id ∉ m₀.executed
  entered : m₀.visited.visited ⊆ m₀.executed
  reachable : s.Reachable v
  later : ∀ u ∈ rest, s.Reachable u
  fresh : s.Fresh m₀.visited.visited (v.id :: (rest.map (·.id) ++ ahead))
  work : Works s v (began v m₀) inner m₁
  below : Walks (traversal s) s.toWorkspace m₁ inner m₂
  after : Walks (traversal s) s.toWorkspace m₂ (.ofNodes rest) m'

omit forest in
theorem Visit.append {ns : List Node} {ahead : List NodeId} {m₀ m₁ m₂ m₃ : Machine} {inner : Route}
    {rest : List Node} (h : Visit s v (ns.map (·.id) ++ ahead) m₀ m₁ m₂ m' inner rest)
    (reachable : ∀ u ∈ ns, s.Reachable u)
    (walk : Walks (traversal s) s.toWorkspace m' (.ofNodes ns) m₃) :
    Visit s v ahead m₀ m₁ m₂ m₃ inner (rest ++ ns) where
  new := h.new
  entered := h.entered
  reachable := h.reachable
  later := List.forall_mem_append.mpr ⟨h.later, reachable⟩
  fresh := by
    rw [List.map_append, List.append_assoc]
    exact h.fresh
  work := h.work
  below := h.below
  after := by
    rw [Route.ofNodes_append]
    exact h.after.append walk

theorem exists_visit {I : Machine → Prop} (hI : (traversal s).Preserves I)
    (h : Walks (traversal s) s.toWorkspace m r m') {ns : List Node} (hr : r = .ofNodes ns)
    (reachable : ∀ u ∈ ns, s.Reachable u) {ahead : List NodeId}
    (fresh : s.Fresh m.visited.visited (ns.map (·.id) ++ ahead)) (hm : I m)
    (entered : m.visited.visited ⊆ m.executed) (hv : v ∈ s.graph.nodes.toList)
    (new : v.id ∉ m.executed) (old : v.id ∈ m'.executed) :
    ∃ m₀ m₁ m₂ inner rest, I m₀ ∧ Visit s v ahead m₀ m₁ m₂ m' inner rest := by
  induction h generalizing ns ahead with
  | stop => exact absurd old new
  | pause hp _ ih =>
    have hm₁ := hI.pause hm hp
    obtain ⟨_, _, _, own⟩ := hp
    rw [← Own.visited_eq own] at fresh entered
    rw [← Own.executed_eq own] at new entered
    exact ih hr reachable fresh hm₁ entered new old
  | seen hseen =>
    cases ns with
    | nil => cases hr
    | cons u ns =>
      obtain ⟨rfl, -⟩ := Route.visit.inj hr
      exact absurd hseen (fresh.not_mem List.mem_cons_self)
  | @enter m m₁ m₂ m' u inner _ hu hnew hw hi hrest ihi ihr =>
    cases ns with
    | nil => cases hr
    | cons u' ns =>
      obtain ⟨rfl, rfl⟩ := Route.visit.inj hr
      obtain ⟨first, later⟩ := List.forall_mem_cons.mp reachable
      by_cases hid : u.id = v.id
      · obtain rfl : u = v := List.inj_on_of_nodup_map forest.ids hu hv hid
        exact ⟨m, m₁, m₂, inner, ns, hm, new, entered, first, later, fresh, hw, hi, hrest⟩
      · have hm₁ := hI.enter hm hnew hw
        have entered₁ := Works.entered hw entered
        obtain ⟨ns', rfl, below, fresh₁⟩ := Works.fresh forest hw first fresh
        by_cases hmid : v.id ∈ m₂.executed
        · have new₁ : v.id ∉ m₁.executed := by
            rw [Works.executed_eq hw, List.mem_append, List.mem_singleton]
            exact not_or.mpr ⟨new, Ne.symm hid⟩
          obtain ⟨n₀, n₁, n₂, route, rest, hn₀, visit⟩ :=
            ihi rfl below fresh₁ hm₁ entered₁ new₁ hmid
          exact ⟨n₀, n₁, n₂, route, rest ++ ns, hn₀, visit.append later hrest⟩
        · exact ihr rfl later (fresh_of_walks forest hi rfl below fresh₁) (hI.walks hi hm₁)
            (nodes_executed hi entered₁).1 hmid old
  | inside =>
    cases ns with
    | nil | cons => cases hr

/-- A walk that executes a node never enters the successors that the execution does not lead to. -/
theorem Visit.not_entered {ahead : List NodeId} {m₀ m₁ m₂ : Machine} {inner : Route}
    {rest : List Node} (h : Visit s v ahead m₀ m₁ m₂ m' inner rest)
    (hu : u ∈ s.controlSuccessors v none) (hn : u ∉ inner.nodes) :
    u.id ∉ m'.visited.visited := by
  obtain ⟨ns, rfl, some⟩ := h.work.route.exists_nodes (forest.not_loops h.reachable)
  rw [Route.nodes_ofNodes] at hn
  have entered : m₁.visited.visited = v.id :: m₀.visited.visited :=
    congrArg VisitSet.visited h.work.own.visited_eq
  have fresh₁ : s.Fresh m₁.visited.visited
      (ns.map (·.id) ++ (rest.map (·.id) ++ (u.id :: ahead))) := by
    rw [entered]
    have wider : (u :: ns).Subperm (s.controlSuccessors v none) :=
      List.cons_subperm_of_not_mem_of_mem hn hu some
    refine (h.fresh.enter (Workspace.mem_nodes_of_reachable h.reachable)
      (h.fresh.not_mem List.mem_cons_self) wider).perm ?_
    rw [List.map_cons, List.cons_append, ← List.append_assoc, ← List.append_assoc]
    exact List.perm_middle.symm
  have fresh₂ := fresh_of_walks forest h.below rfl
    (fun u hu => .step h.reachable (some.subset hu)) fresh₁
  exact (fresh_of_walks forest h.after rfl h.later fresh₂).not_mem List.mem_cons_self

theorem Visit.executed_iff {ahead : List NodeId} {m₀ m₁ m₂ : Machine} {inner : Route}
    {rest : List Node} (h : Visit s v ahead m₀ m₁ m₂ m' inner rest)
    (entered : m'.executed ⊆ m'.visited.visited) (hu : u ∈ s.controlSuccessors v none) :
    u.id ∈ m'.executed ↔ u ∈ inner.nodes := by
  constructor
  · intro executed
    by_contra hn
    exact h.not_entered forest hu hn (entered executed)
  · intro hn
    have executed := (nodes_executed h.below (Works.entered h.work h.entered)).2 u hn
    exact (executed_prefix_of_walks h.after).subset executed

end

/-! ### Deeds outside of executions -/

theorem Own.deedsOf_eq {ports : List Nat} {id : NodeId} (h : Own u ports m m') (hv : u.id ≠ id) :
    deedsOf id m'.log.toList = deedsOf id m.log.toList := by
  obtain ⟨es, he, hes⟩ := Operation.steps_log_eq h
  rw [he, deedsOf_append, Event.IsOwn.deedsOf_eq_nil hes hv, List.append_nil]

theorem deedsOf_began (id : NodeId) (v : Node) (m : Machine) :
    deedsOf id (began v m).log.toList = deedsOf id m.log.toList := by
  change deedsOf id (m.logged [.node v.id]).log.toList = _
  rw [Machine.log_logged, deedsOf_append]
  exact List.append_nil _

theorem Works.deedsOf_eq {id : NodeId} (h : Works s u (began u m) r m') (hv : u.id ≠ id) :
    deedsOf id m'.log.toList = deedsOf id m.log.toList := by
  rw [Own.deedsOf_eq h.own hv, deedsOf_began]

section

variable (hids : (s.graph.nodes.toList.map (·.id)).Nodup) (hv : v ∈ s.graph.nodes.toList)
  (hl : ∀ kind ∈ Kind.ofName? v.kind, kind.loops = false)
include hids hv hl

/-- Only loops do something between the nodes of a walk. -/
theorem Idles.deedsOf_eq (h : Idles s m m') :
    deedsOf v.id m'.log.toList = deedsOf v.id m.log.toList := by
  obtain ⟨u, hu, ⟨kind, hk, hloops⟩, own⟩ := h
  refine Own.deedsOf_eq own fun hid => ?_
  obtain rfl : u = v := List.inj_on_of_nodup_map hids hu hv hid
  exact absurd hloops (by simp [hl kind hk])

/-- A node does nothing before it is executed. -/
theorem preserves_idle :
    (traversal s).Preserves fun m => v.id ∉ m.executed → deedsOf v.id m.log.toList = [] where
  enter {u m m' r} hm _ hw new := by
    rw [Works.executed_eq hw, List.mem_append, List.mem_singleton, not_or] at new
    rw [Works.deedsOf_eq hw (Ne.symm new.2)]
    exact hm new.1
  pause {m m'} hm hp new := by
    rw [Idles.deedsOf_eq hids hv hl hp]
    obtain ⟨_, _, _, own⟩ := hp
    exact hm (Own.executed_eq own ▸ new)
  opens {m m'} hm ho new := by
    obtain ⟨body, rfl⟩ := ho
    rw [Machine.log_logged, deedsOf_append]
    exact (List.append_nil _).trans (hm (executed_iteration m body ▸ new))
  closes _ hm hc new := by
    obtain rfl := hc
    exact hm new

/-- While a node counts as entered it does nothing more. -/
theorem preserves_deeds (es : List Event) :
    (traversal s).Preserves fun m =>
      v.id ∈ m.visited.visited ∧ deedsOf v.id m.log.toList = es where
  enter {u m m' r} hm hnew hw := by
    obtain ⟨entered, deeds⟩ := hm
    have other : u.id ≠ v.id := by
      rintro hid
      exact hnew (hid ▸ entered)
    refine ⟨?_, ?_⟩
    · rw [hw.own.visited_eq]
      exact List.mem_cons_of_mem _ entered
    · rw [Works.deedsOf_eq hw other, deeds]
  pause {m m'} hm hp := by
    rw [Idles.deedsOf_eq hids hv hl hp]
    obtain ⟨_, _, _, own⟩ := hp
    rwa [Own.visited_eq own]
  opens {m m'} hm ho := by
    obtain ⟨body, rfl⟩ := ho
    rw [Machine.log_logged, deedsOf_append]
    exact ⟨hm.1, (List.append_nil _).trans hm.2⟩
  closes hm hm₁ hc := by
    obtain rfl := hc
    exact ⟨hm.1, hm₁.2⟩

/-- All that a node does that is executed once belongs to the work of that execution. -/
theorem Visit.deedsOf_eq {ahead : List NodeId} {m₀ m₁ m₂ : Machine} {inner : Route}
    {rest : List Node} (h : Visit s v ahead m₀ m₁ m₂ m' inner rest)
    (idle : v.id ∉ m₀.executed → deedsOf v.id m₀.log.toList = []) {es : List Event}
    (log : m₁.log.toList = (began v m₀).log.toList ++ es) :
    deedsOf v.id m'.log.toList = deedsOf v.id es := by
  have deeds : deedsOf v.id m₁.log.toList = deedsOf v.id es := by
    rw [log, deedsOf_append, deedsOf_began, idle h.new, List.nil_append]
  have entered : v.id ∈ m₁.visited.visited := by
    rw [h.work.own.visited_eq]
    exact List.mem_cons_self
  have kept := preserves_deeds hids hv hl (deedsOf v.id es)
  exact (kept.walks h.after (kept.walks h.below ⟨entered, deeds⟩)).2

end

theorem Visit.log_eq {ahead : List NodeId} {m₀ m₁ m₂ : Machine} {inner : Route}
    {rest : List Node} (h : Visit s v ahead m₀ m₁ m₂ m' inner rest) :
    ∃ after, m'.log.toList = m₀.log.toList ++ .node v.id :: after := by
  obtain ⟨es, worked, -⟩ := Operation.steps_log_eq h.work.own
  obtain ⟨more, walked⟩ := (log_prefix_of_walks h.below).trans (log_prefix_of_walks h.after)
  have begun : (began v m₀).log.toList = m₀.log.toList ++ [.node v.id] := m₀.log_logged _
  refine ⟨es ++ more, ?_⟩
  rw [← walked, worked, begun]
  simp

/-! ### Whole runs -/

/-- The failures of a node are among its deeds. -/
theorem Run.diagnosticsFor_eq (es : List Event) (id : NodeId) :
    (Run.mk es).diagnosticsFor id = (Run.mk (deedsOf id es)).diagnostics := by
  unfold diagnosticsFor diagnostics deedsOf
  rw [List.filter_filterMap, List.filterMap_filter]
  refine List.filterMap_congr fun e _ => ?_
  cases e with
  | failure d => by_cases h : d.node = id <;> simp [Event.deedOf?, h]
  | _ => simp

/-- States with the same past give readers of inputs the same. -/
theorem SameValues.of_told (hm : m.Told) (hm' : m'.Told) (h : m.log.toList = m'.log.toList) :
    SameValues m m' where
  outputs := by rw [hm.outputs, hm'.outputs, h]
  bindings := by rw [hm.bindings, hm'.bindings, h]

/-- Among the states that occur there is one in which a node chooses as it does where it begins. -/
theorem Interpreter.Course.exists_choice {i : Interpreter} {graph : Graph} {kind : Kind}
    (h : i.Course graph) (hd : kind.decides) (hm : m.Told) {after : List Event}
    (he : (i.run graph).log = m.log.toList ++ .node v.id :: after) :
    ∃ m', i.Occurs graph m' ∧ (i.run graph).log = m'.log.toList ++ .node v.id :: after ∧
      (((i.setting graph).choice v kind).run.run (began v m)).1 =
        (((i.setting graph).choice v kind).run.run m').1 := by
  obtain ⟨m', occurs, same⟩ := h.after ⟨_, he.symm⟩
  have values : SameValues m m' := .of_told hm occurs.told same.symm
  have begun : SameValues (began v m) m' := ⟨values.outputs, values.bindings⟩
  exact ⟨m', occurs, by rw [same, he], (attempts_choice hd (began v m) m' begun).1⟩

section

variable {limit : Nat} {exchange : Http.Exchange} {draws : Draws} {graph : Graph}
variable (forest : (Workspace.mk graph .builtin).BranchingForest)
include forest

/-- Where control does not come to a loop, what is executed counts as entered when a run ends. -/
theorem entered_machine :
    let m := (builtin limit exchange draws).machine graph
    m.executed ⊆ m.visited.visited := by
  intro m id hid
  refine ((accounted_machine limit exchange draws graph).entered id hid).resolve_right ?_
  rintro ⟨loop, reachable, -, hloop, -⟩
  exact hloop.elim (forest.loopless loop reachable).1 (forest.loopless loop reachable).2

theorem exists_visit_machine {I : Machine → Prop}
    (hI : (traversal ((builtin limit exchange draws).setting graph)).Preserves I) (start : I {})
    (hv : v ∈ graph.nodes.toList)
    (old : v.id ∈ ((builtin limit exchange draws).run graph).visited) :
    ∃ m₀ m₁ m₂ inner rest, I m₀ ∧ Visit ((builtin limit exchange draws).setting graph) v []
      m₀ m₁ m₂ ((builtin limit exchange draws).machine graph) inner rest := by
  let s := (builtin limit exchange draws).setting graph
  have fresh : s.Fresh [] (s.entryNodes.map (·.id) ++ []) := by
    rw [List.append_nil]
    exact forest.fresh
  exact exists_visit (s := s) (m := {}) forest hI
    (Interpreter.walks_machine limit exchange draws graph) rfl (fun u hu => .entry hu) fresh start
    (List.nil_subset _) hv List.not_mem_nil old

end

/-- What has become of a decision in a run, by the choice that the node has in the state that occurs
where its execution begins. -/
inductive Interpreter.TakesOneBranch (i : Interpreter) (graph : Graph) (v : Node) (kind : Kind) :
    Prop where
  /-- Nothing could be chosen. This is reported, and nothing that the node leads to is executed. -/
  | halts {m : Machine} {after : List Event} {fault : Fault} : i.Occurs graph m →
      (i.run graph).log = m.log.toList ++ .node v.id :: after →
      (((i.setting graph).choice v kind).run.run m).1 = .error fault →
      (i.run graph).diagnosticsFor v.id = [⟨v.id, v.kind, fault⟩] →
      (∀ u ∈ (i.setting graph).controlSuccessors v none, u.id ∉ (i.run graph).visited) →
      i.TakesOneBranch graph v kind
  /-- Of all that the node leads to, what lies behind the chosen output is executed. -/
  | follows {m : Machine} {after : List Event} {port : Nat} : i.Occurs graph m →
      (i.run graph).log = m.log.toList ++ .node v.id :: after →
      (((i.setting graph).choice v kind).run.run m).1 = .ok port →
      (i.run graph).diagnosticsFor v.id = [] →
      (∀ u ∈ (i.setting graph).controlSuccessors v none,
        u.id ∈ (i.run graph).visited ↔ u ∈ (i.setting graph).controlSuccessors v (some port)) →
      i.TakesOneBranch graph v kind

/-- A comparison without anything to compare, and a condition that holds. -/
def twoDecisions : Graph :=
  .ofLists
    [{ id := .ofNat 1, kind := Kind.onStart.name }, { id := .ofNat 2, kind := Kind.ifThen.name },
      { id := .ofNat 3, kind := Kind.log.name }, { id := .ofNat 4, kind := Kind.condition.name },
      { id := .ofNat 5, kind := Kind.log.name }, { id := .ofNat 6, kind := Kind.log.name }]
    [.between (.ofNat 1) 0 (.ofNat 2) 0, .between (.ofNat 2) 0 (.ofNat 3) 0,
      .between (.ofNat 1) 0 (.ofNat 4) 0, .between (.ofNat 4) 0 (.ofNat 5) 0,
      .between (.ofNat 4) 1 (.ofNat 6) 0]

theorem twoDecisions_forest : (Workspace.mk twoDecisions .builtin).BranchingForest :=
  .of_nodes (by decide +kernel) (by decide +kernel) (by decide +kernel) (by decide +kernel)

end Script

end ScriptGraph
