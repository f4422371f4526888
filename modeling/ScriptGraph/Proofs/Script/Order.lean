import ScriptGraph.Proofs.Script.Traversal
import ScriptGraph.Proofs.Source.DepthFirst
import ScriptGraph.Proofs.Source.Forest

/-! # The order of executions

A run executes nothing but what control leads to, and it passes on wherever control must go. Scopes
forget what was entered in them, so a node may be executed again: this happens in the bodies of
loops only.
-/

namespace ScriptGraph

open Source (Led Grows)

/-! ### Where executions lead -/

namespace Route

theorem nodes_times_subset (body : Route) (count : Nat) :
    (body.times count).nodes ⊆ body.nodes := by
  induction count with
  | zero => exact List.nil_subset _
  | succ count ih => exact List.append_subset.mpr ⟨List.Subset.refl _, ih⟩

end Route

namespace Workspace

variable {w : Workspace} {limit : Nat} {has : PortRef → Bool} {u v : Node} {r : Route}

theorem controlSuccessors_subset (port : Option Nat) :
    w.controlSuccessors u port ⊆ w.controlSuccessors u none := by
  intro v hv
  obtain ⟨edge, he, -, hc, hf⟩ := mem_controlSuccessors.mp hv
  exact mem_controlSuccessors.mpr ⟨edge, he, rfl, hc, hf⟩

/-- An execution leads along control edges only. -/
theorem Leads.nodes_subset (h : w.Leads limit has u r) : r.nodes ⊆ w.controlSuccessors u none := by
  cases h with
  | all => rw [Route.nodes_ofNodes]; exact List.Subset.refl _
  | nowhere => exact List.nil_subset _
  | choice => rw [Route.nodes_ofNodes]; exact controlSuccessors_subset _
  | rounds =>
    rw [Route.nodes_append, List.append_subset, Route.nodes_ofNodes]
    refine ⟨List.Subset.trans (Route.nodes_times_subset _ _) ?_, controlSuccessors_subset _⟩
    rw [Route.nodes_ofNodes]
    exact controlSuccessors_subset _

/-- Control must pass on to a node: along every output of a node that does not branch, and behind a
loop. -/
inductive Passes (w : Workspace) (u v : Node) : Prop where
  | along : (∀ kind ∈ Kind.ofName? u.kind, kind.branches = false) →
      v ∈ w.controlSuccessors u none → w.Passes u v
  | behind {kind : Kind} : Kind.ofName? u.kind = some kind → kind.loops →
      v ∈ w.controlSuccessors u (some 1) → w.Passes u v

theorem Leads.mem_nodes (h : w.Leads limit has u r) (hp : w.Passes u v) : v ∈ r.nodes := by
  cases h with
  | all =>
    rw [Route.nodes_ofNodes]
    cases hp with
    | along _ hv => exact hv
    | behind _ _ hv => exact controlSuccessors_subset _ hv
  | nowhere hk hd | choice hk hd =>
    cases hp with
    | along hb => exact absurd (Kind.branches_of_decides hd) (by simp [hb _ hk])
    | behind hk' hl =>
      obtain rfl := Option.some.inj (hk.symm.trans hk')
      exact absurd hl (by simp [Kind.not_loops_of_decides hd])
  | rounds hk hl =>
    cases hp with
    | along hb => exact absurd (Kind.branches_of_loops hl) (by simp [hb _ hk])
    | behind _ _ hv =>
      rw [Route.nodes_append, Route.nodes_ofNodes]
      exact List.mem_append_right _ hv

end Workspace

namespace Script

variable {s : Setting} {v : Node} {m m' : Machine} {r : Route}

/-! ### What has been executed -/

theorem Works.executed_eq (h : Works s v (began v m) r m') :
    m'.executed = m.executed ++ [v.id] := by
  rw [h.own.executed_eq, executed_began]

theorem Works.entered (h : Works s v (began v m) r m') (hm : m.visited.visited ⊆ m.executed) :
    m'.visited.visited ⊆ m'.executed := by
  rw [h.executed_eq, h.own.visited_eq]
  exact List.cons_subset.mpr ⟨by simp, List.subset_append_of_subset_left _ hm⟩

theorem executed_iteration (m : Machine) (body : PortRef) :
    (m.logged [.iteration body]).executed = m.executed :=
  m.executed_logged_of_silent rfl

theorem preserves_logged (es : List Event) :
    (traversal s).Preserves fun m => es <+: m.log.toList where
  enter {v m m' r} hm _ hw := by
    obtain ⟨es', he, -⟩ := Operation.steps_log_eq hw.own
    rw [he]
    refine (hm.trans ?_).trans (List.prefix_append _ es')
    exact ⟨[.node v.id], (m.log_logged _).symm⟩
  pause hm hp := by
    obtain ⟨_, _, _, own⟩ := hp
    obtain ⟨es', he, -⟩ := Operation.steps_log_eq own
    exact hm.trans ⟨es', he.symm⟩
  opens {m m'} hm ho := by
    obtain ⟨body, rfl⟩ := ho
    exact hm.trans ⟨[.iteration body], (m.log_logged _).symm⟩
  closes _ hm hc := by
    obtain rfl := hc
    exact hm

/-- What is logged stays logged. -/
theorem log_prefix_of_walks (h : Walks (traversal s) s.toWorkspace m r m') :
    m.log.toList <+: m'.log.toList :=
  (preserves_logged _).walks h List.prefix_rfl

theorem executed_prefix_of_walks (h : Walks (traversal s) s.toWorkspace m r m') :
    m.executed <+: m'.executed :=
  (log_prefix_of_walks h).filterMap _

variable {m₁ m₂ : Machine} {r' : Route}

theorem Works.executed_subset (hw : Works s v (began v m) r m₁)
    (hi : Walks (traversal s) s.toWorkspace m₁ r' m₂) : m.executed ++ [v.id] ⊆ m₂.executed := by
  rw [← hw.executed_eq]
  exact (executed_prefix_of_walks hi).subset

theorem executed_subset_of_round {body : PortRef}
    (hb : Walks (traversal s) s.toWorkspace (m.logged [.iteration body]) r m₂) :
    m.executed ⊆ m₂.executed := by
  rw [← executed_iteration m body]
  exact (executed_prefix_of_walks hb).subset

/-- What counts as entered has been executed, and so has every node on a route where it ends. -/
theorem nodes_executed (h : Walks (traversal s) s.toWorkspace m r m')
    (hm : m.visited.visited ⊆ m.executed) :
    m'.visited.visited ⊆ m'.executed ∧ ∀ v ∈ r.nodes, v.id ∈ m'.executed := by
  induction h with
  | stop => exact ⟨hm, nofun⟩
  | pause hp _ ih =>
    obtain ⟨_, _, _, own⟩ := hp
    refine ih ?_
    rwa [Own.executed_eq own, Own.visited_eq own]
  | @seen m m' v rest hv hrest ih =>
    obtain ⟨entered, executed⟩ := ih hm
    refine ⟨entered, fun u hu => ?_⟩
    rcases List.mem_cons.mp hu with rfl | hu
    · exact (executed_prefix_of_walks hrest).subset (hm hv)
    · exact executed u hu
  | @enter m m₁ m₂ m' v inner rest _ _ hw hi hrest ihi ihr =>
    obtain ⟨entered, executed⟩ := ihr (ihi (Works.entered hw hm)).1
    refine ⟨entered, fun u hu => ?_⟩
    rcases List.mem_cons.mp hu with rfl | hu
    · refine (executed_prefix_of_walks hrest).subset (Works.executed_subset hw hi ?_)
      exact List.mem_append_right _ (List.mem_singleton_self _)
    · exact executed u hu
  | @inside m _ m₂ _ m' body rest ho hb hc hrest ihb ihr =>
    obtain ⟨port, rfl⟩ := ho
    obtain rfl := hc
    have grown : m.executed ⊆ m₂.executed := executed_subset_of_round hb
    obtain ⟨-, inBody⟩ := ihb (by rwa [executed_iteration])
    obtain ⟨entered, executed⟩ := ihr (List.Subset.trans hm grown)
    refine ⟨entered, fun u hu => ?_⟩
    rcases List.mem_append.mp hu with hu | hu
    · exact (executed_prefix_of_walks hrest).subset (inBody u hu)
    · exact executed u hu

/-! ### Control is followed -/

/-- A walk executes nothing that is not led to. -/
theorem grows_of_walks (h : Walks (traversal s) s.toWorkspace m r m')
    (hg : Grows s.toWorkspace m.executed) (hr : ∀ v ∈ r.nodes, Led s.toWorkspace m.executed v) :
    Grows s.toWorkspace m'.executed := by
  induction h with
  | stop => exact hg
  | pause hp _ ih =>
    obtain ⟨_, _, _, own⟩ := hp
    rw [Own.executed_eq own] at ih
    exact ih hg hr
  | seen _ _ ih => exact ih hg fun u hu => hr u (List.mem_cons_of_mem _ hu)
  | @enter m m₁ m₂ _ v inner _ hn _ hw hi _ ihi ihr =>
    have begun : m₁.executed = m.executed ++ [v.id] := Works.executed_eq hw
    have later := List.append_subset.mp (Works.executed_subset hw hi)
    refine ihr (ihi ?_ ?_) fun u hu => (hr u (List.mem_cons_of_mem v hu)).mono later.1
    · rw [begun]
      exact hg.concat hn (hr v List.mem_cons_self)
    · intro u hu
      exact .inr ⟨v, hn, by simp [begun], hw.route.nodes_subset hu⟩
  | @inside m _ m₂ _ _ body _ ho hb hc _ ihb ihr =>
    obtain ⟨port, rfl⟩ := ho
    obtain rfl := hc
    have grown : m.executed ⊆ m₂.executed := executed_subset_of_round hb
    rw [executed_iteration] at ihb
    exact ihr (ihb hg fun u hu => hr u (List.mem_append_left _ hu)) fun u hu =>
      (hr u (List.mem_append_right _ hu)).mono grown

/-- A walk executes whatever control must pass on to from the nodes that it executes first. -/
theorem passed_of_walks (hids : (s.graph.nodes.toList.map (·.id)).Nodup)
    (h : Walks (traversal s) s.toWorkspace m r m') (hm : m.visited.visited ⊆ m.executed) :
    ∀ u ∈ s.graph.nodes.toList, u.id ∉ m.executed → u.id ∈ m'.executed →
      ∀ v, s.Passes u v → v.id ∈ m'.executed := by
  induction h with
  | stop => exact fun u _ hnew hold => absurd hold hnew
  | pause hp _ ih =>
    obtain ⟨_, _, _, own⟩ := hp
    rw [Own.executed_eq own, Own.visited_eq own] at ih
    exact ih hm
  | seen _ _ ih => exact ih hm
  | @enter m m₁ m₂ m' w inner _ hn _ hw hi hrest ihi ihr =>
    intro u hu hnew hold v hv
    have begun : m₁.executed = m.executed ++ [w.id] := Works.executed_eq hw
    obtain ⟨entered, executed⟩ := nodes_executed hi (Works.entered hw hm)
    have kept := (executed_prefix_of_walks hrest).subset
    by_cases hmid : u.id ∈ m₂.executed
    · by_cases huw : u.id = w.id
      · obtain rfl : u = w := List.inj_on_of_nodup_map hids hu hn huw
        exact kept (executed v (hw.route.mem_nodes hv))
      · refine kept (ihi (Works.entered hw hm) u hu ?_ hmid v hv)
        rw [begun, List.mem_append, List.mem_singleton]
        exact not_or.mpr ⟨hnew, huw⟩
    · exact ihr entered u hu hmid hold v hv
  | @inside m _ m₂ _ m' _ _ ho hb hc hrest ihb ihr =>
    obtain ⟨port, rfl⟩ := ho
    obtain rfl := hc
    have grown : m.executed ⊆ m₂.executed := executed_subset_of_round hb
    rw [executed_iteration] at ihb
    intro u hu hnew hold v hv
    by_cases hmid : u.id ∈ m₂.executed
    · exact (executed_prefix_of_walks hrest).subset (ihb hm u hu hnew hmid v hv)
    · exact ihr (List.Subset.trans hm grown) u hu hmid hold v hv

/-- An order of executions follows the control edges of a graph. -/
structure FollowsControl (w : Workspace) (order : List NodeId) : Prop where
  /-- Every executed node is an entry node or a control successor of one executed before it. -/
  sound : Grows w order
  entries : ∀ v ∈ w.entryNodes, v.id ∈ order
  along : ∀ u ∈ w.graph.nodes.toList, u.id ∈ order →
    (∀ kind ∈ Kind.ofName? u.kind, kind.branches = false) →
      ∀ v ∈ w.controlSuccessors u none, v.id ∈ order
  behind : ∀ u ∈ w.graph.nodes.toList, u.id ∈ order →
    u.kind = Kind.whileLoop.name ∨ u.kind = Kind.forLoop.name →
      ∀ v ∈ w.controlSuccessors u (some 1), v.id ∈ order

/-- On a graph with unique ids a run executes nothing but what control leads to, all entry nodes,
whatever a node that does not branch leads to, and what comes behind a loop. -/
theorem run_followsControl (limit : Nat) (exchange : Http.Exchange) (draws : Draws) (graph : Graph)
    (hids : (graph.nodes.toList.map (·.id)).Nodup) :
    FollowsControl ⟨graph, .builtin⟩ ((builtin limit exchange draws).run graph).visited := by
  let s := (builtin limit exchange draws).setting graph
  let m := (builtin limit exchange draws).machine graph
  have walk : Walks (traversal s) s.toWorkspace {} (.ofNodes s.entryNodes) m :=
    Interpreter.walks_machine limit exchange draws graph
  have passed : ∀ u ∈ graph.nodes.toList, u.id ∈ m.executed → ∀ v, s.Passes u v →
      v.id ∈ m.executed := fun u hu hold v hv =>
    passed_of_walks hids walk (List.nil_subset _) u hu List.not_mem_nil hold v hv
  constructor
  case sound =>
    refine grows_of_walks walk ?_ fun v hv => .inl (by rwa [Route.nodes_ofNodes] at hv)
    intro before id after he
    exact absurd he (by simp [Machine.executed, nodesOf])
  case entries =>
    intro v hv
    refine (nodes_executed walk (List.nil_subset _)).2 v ?_
    rwa [Route.nodes_ofNodes]
  case along =>
    intro u hu hold hb v hv
    exact passed u hu hold v (.along hb hv)
  case behind =>
    intro u hu hold hk v hv
    rcases hk with hk | hk
    · exact passed u hu hold v (.behind (Kind.ofName?_eq_some_iff.mpr hk) rfl hv)
    · exact passed u hu hold v (.behind (Kind.ofName?_eq_some_iff.mpr hk) rfl hv)

/-- A loop whose body leads back to it, a node that fails behind it, and a node of a kind that is
not known behind that. -/
def loopWithFailure : Graph :=
  .ofLists
    [{ id := .ofNat 1, kind := Kind.onStart.name }, { id := .ofNat 2, kind := Kind.whileLoop.name },
      { id := .ofNat 3, kind := Kind.log.name }, { id := .ofNat 4, kind := Kind.jsonParse.name },
      { id := .ofNat 5, kind := "Custom" }]
    [.between (.ofNat 1) 0 (.ofNat 2) 0, .between (.ofNat 2) 0 (.ofNat 3) 0,
      .between (.ofNat 3) 0 (.ofNat 2) 0, .between (.ofNat 2) 1 (.ofNat 4) 0,
      .between (.ofNat 4) 0 (.ofNat 5) 0]

theorem loopWithFailure_followsControl :
    (loopWithFailure.nodes.toList.map (·.id)).Nodup ∧
      FollowsControl ⟨loopWithFailure, .builtin⟩
        ((builtin 2 .unreachable (.ofSeed 0)).run loopWithFailure).visited ∧
      ((builtin 2 .unreachable (.ofSeed 0)).run loopWithFailure).visited =
        [.ofNat 1, .ofNat 2, .ofNat 3, .ofNat 3, .ofNat 4, .ofNat 5] :=
  ⟨by decide, run_followsControl 2 .unreachable (.ofSeed 0) loopWithFailure (by decide),
    by decide +kernel⟩

/-! ### What is executed again -/

end Script

namespace Workspace

/-- Control gets from one node to another. -/
abbrev LeadsTo (w : Workspace) : Node → Node → Prop :=
  Relation.ReflTransGen fun u v => v ∈ w.controlSuccessors u none

/-- The node lies in the body of a loop that control comes to and that has been executed. -/
def InLoopBody (w : Workspace) (order : List NodeId) (id : NodeId) : Prop :=
  ∃ loop, w.Reachable loop ∧ loop.id ∈ order ∧
    (loop.kind = Kind.whileLoop.name ∨ loop.kind = Kind.forLoop.name) ∧
    ∃ u ∈ w.controlSuccessors loop (some 0), ∃ v, w.LeadsTo u v ∧ v.id = id

theorem InLoopBody.mono {w : Workspace} {order order' : List NodeId} {id : NodeId}
    (h : w.InLoopBody order id) (ho : order ⊆ order') : w.InLoopBody order' id := by
  obtain ⟨loop, reachable, executed, rest⟩ := h
  exact ⟨loop, reachable, ho executed, rest⟩

end Workspace

namespace Route

/-- All that is walked in scopes of their own begins at nodes with a property. -/
def Bodies (P : Node → Prop) : Route → Prop
  | stop => True
  | visit _ rest => rest.Bodies P
  | inside body rest => (∀ u ∈ body.nodes, P u) ∧ body.Bodies P ∧ rest.Bodies P

variable {P Q : Node → Prop} {r r' : Route}

theorem Bodies.mono (h : r.Bodies P) (hpq : ∀ u, P u → Q u) : r.Bodies Q := by
  induction r with
  | stop => trivial
  | visit node rest ih => exact ih h
  | inside body rest ihb ihr =>
    obtain ⟨hb, hbody, hrest⟩ := h
    exact ⟨fun u hu => hpq u (hb u hu), ihb hbody, ihr hrest⟩

theorem bodies_ofNodes (P : Node → Prop) (ns : List Node) : (ofNodes ns).Bodies P := by
  induction ns with
  | nil => trivial
  | cons node ns ih => exact ih

theorem Bodies.append (h : r.Bodies P) (h' : r'.Bodies P) : (r ++ r').Bodies P := by
  induction r with
  | stop => exact h'
  | visit node rest ih => exact ih h
  | inside body rest _ ih => exact ⟨h.1, h.2.1, ih h.2.2⟩

theorem Bodies.times {body : Route} (hp : ∀ u ∈ body.nodes, P u) (h : body.Bodies P)
    (count : Nat) : (body.times count).Bodies P := by
  induction count with
  | zero => trivial
  | succ count ih => exact ⟨hp, h, ih⟩

end Route

namespace Script

variable {s : Setting} {v : Node} {m m' : Machine} {r : Route}

/-- The node is where a round of a loop begins. -/
def BeginsRound (w : Workspace) (order : List NodeId) (u : Node) : Prop :=
  ∃ loop, w.Reachable loop ∧ loop.id ∈ order ∧
    (loop.kind = Kind.whileLoop.name ∨ loop.kind = Kind.forLoop.name) ∧
    u ∈ w.controlSuccessors loop (some 0)

/-- Only loops walk in scopes of their own. -/
theorem bodies_of_leads {w : Workspace} {limit : Nat} {has : PortRef → Bool}
    {order : List NodeId} (h : w.Leads limit has v r) (hr : w.Reachable v) (hv : v.id ∈ order) :
    r.Bodies (BeginsRound w order) := by
  cases h with
  | all | choice => exact Route.bodies_ofNodes _ _
  | nowhere => trivial
  | @rounds kind _ hk hl =>
    have loop : v.kind = Kind.whileLoop.name ∨ v.kind = Kind.forLoop.name := by
      have name := Kind.ofName?_eq_some_iff.mp hk
      cases kind with
      | whileLoop => exact .inl name
      | forLoop => exact .inr name
      | _ => cases hl
    refine .append (.times (fun u hu => ?_) (Route.bodies_ofNodes _ _) _) (Route.bodies_ofNodes _ _)
    rw [Route.nodes_ofNodes] at hu
    exact ⟨v, hr, hv, loop, hu⟩

/-- A walk enters what the nodes on its route lead to. -/
theorem entered_of_walks (h : Walks (traversal s) s.toWorkspace m r m') :
    ∀ id ∈ m'.visited.visited, id ∈ m.visited.visited ∨
      ∃ u ∈ r.nodes, ∃ v, s.LeadsTo u v ∧ v.id = id := by
  induction h with
  | stop => exact fun _ => .inl
  | pause hp _ ih =>
    obtain ⟨_, _, _, own⟩ := hp
    rwa [Own.visited_eq own] at ih
  | seen _ _ ih =>
    intro id hid
    refine (ih id hid).imp_right ?_
    rintro ⟨u, hu, leads⟩
    exact ⟨u, List.mem_cons_of_mem _ hu, leads⟩
  | @enter m m₁ m₂ _ v inner rest _ _ hw _ _ ihi ihr =>
    have begun : m₁.visited.visited = v.id :: m.visited.visited :=
      congrArg VisitSet.visited hw.own.visited_eq
    intro id hid
    rcases ihr id hid with hid | ⟨u, hu, leads⟩
    · rcases ihi id hid with hid | ⟨u, hu, last, leads, he⟩
      · rw [begun] at hid
        rcases List.mem_cons.mp hid with rfl | hid
        · exact .inr ⟨v, List.mem_cons_self, v, .refl, rfl⟩
        · exact .inl hid
      · exact .inr ⟨v, List.mem_cons_self, last, .head (hw.route.nodes_subset hu) leads, he⟩
    · exact .inr ⟨u, List.mem_cons_of_mem v hu, leads⟩
  | inside ho _ hc _ _ ihr =>
    obtain ⟨_, rfl⟩ := ho
    obtain rfl := hc
    intro id hid
    refine (ihr id hid).imp_right ?_
    rintro ⟨u, hu, leads⟩
    exact ⟨u, List.mem_append_right _ hu, leads⟩

/-- What has been executed counts as entered or lies in the body of a loop, and what has been
executed more than once lies in the body of a loop. -/
structure Accounted (w : Workspace) (m : Machine) : Prop where
  entered : ∀ id ∈ m.executed, id ∈ m.visited.visited ∨ w.InLoopBody m.executed id
  again : ∀ id, 2 ≤ m.executed.count id → w.InLoopBody m.executed id

namespace Accounted

variable {w : Workspace}

theorem of_eq (h : Accounted w m) (he : m'.executed = m.executed) (hv : m'.visited = m.visited) :
    Accounted w m' where
  entered := by
    rw [he, hv]
    exact h.entered
  again := by
    rw [he]
    exact h.again

theorem enter (h : Accounted w m) (hv : v.id ∉ m.visited.visited)
    (he : m'.executed = m.executed ++ [v.id]) (he' : m'.visited = ⟨v.id :: m.visited.visited⟩) :
    Accounted w m' := by
  have grown : m.executed ⊆ m'.executed := by
    rw [he]
    exact List.subset_append_left _ _
  constructor
  case entered =>
    intro id hid
    rw [he, List.mem_append, List.mem_singleton] at hid
    rw [he']
    rcases hid with hid | rfl
    · exact (h.entered id hid).imp (List.mem_cons_of_mem _) (·.mono grown)
    · exact .inl List.mem_cons_self
  case again =>
    intro id hid
    refine Workspace.InLoopBody.mono ?_ grown
    rw [he, List.count_append] at hid
    by_cases hne : v.id = id
    · -- The node has been executed before, and does not count as entered.
      subst hne
      have before : v.id ∈ m.executed := by
        rw [List.count_singleton_self] at hid
        exact List.count_pos_iff.mp (by omega)
      exact (h.entered v.id before).resolve_left hv
    · rw [List.count_singleton, beq_false_of_ne hne] at hid
      exact h.again id hid

/-- A round of a loop is over. -/
theorem round {m₁ : Machine} (h : Accounted w m₁)
    (hv : ∀ id ∈ m₁.visited.visited, id ∈ m.visited.visited ∨ w.InLoopBody m₁.executed id) :
    Accounted w { m₁ with visited := m.visited } where
  entered id hid := (h.entered id hid).elim (hv id) .inr
  again := h.again

end Accounted

theorem accounted_of_walks (h : Walks (traversal s) s.toWorkspace m r m')
    (hm : Accounted s.toWorkspace m) (hr : ∀ u ∈ r.nodes, s.Reachable u)
    (hb : r.Bodies (BeginsRound s.toWorkspace m.executed)) : Accounted s.toWorkspace m' := by
  have later {order order' : List NodeId} {r : Route}
      (h : r.Bodies (BeginsRound s.toWorkspace order)) (ho : order ⊆ order') :
      r.Bodies (BeginsRound s.toWorkspace order') :=
    h.mono fun u ⟨loop, hr, hl, rest⟩ => ⟨loop, hr, ho hl, rest⟩
  induction h with
  | stop => exact hm
  | pause hp _ ih =>
    obtain ⟨_, _, _, own⟩ := hp
    rw [Own.executed_eq own] at ih
    exact ih (hm.of_eq (Own.executed_eq own) (Own.visited_eq own)) hr hb
  | seen _ _ ih => exact ih hm (fun u hu => hr u (List.mem_cons_of_mem _ hu)) hb
  | @enter m m₁ m₂ _ v inner rest _ hv hw hi _ ihi ihr =>
    have begun : m₁.executed = m.executed ++ [v.id] := Works.executed_eq hw
    have reachable : s.Reachable v := hr v List.mem_cons_self
    have grown := List.append_subset.mp (Works.executed_subset hw hi)
    have inside := ihi (hm.enter hv begun hw.own.visited_eq)
      (fun u hu => .step reachable (hw.route.nodes_subset hu))
      (bodies_of_leads hw.route reachable (by simp [begun]))
    exact ihr inside (fun u hu => hr u (List.mem_cons_of_mem v hu)) (later hb grown.1)
  | @inside m _ m₂ _ _ body rest ho hw hc _ ihb ihr =>
    obtain ⟨port, rfl⟩ := ho
    obtain rfl := hc
    obtain ⟨begins, bodies, others⟩ := hb
    have grown : m.executed ⊆ m₂.executed := executed_subset_of_round hw
    rw [executed_iteration] at ihb
    have inside : Accounted s.toWorkspace m₂ := ihb (hm.of_eq (executed_iteration m port) rfl)
      (fun u hu => hr u (List.mem_append_left _ hu)) bodies
    refine ihr (inside.round fun id hid => ?_) (fun u hu => hr u (List.mem_append_right _ hu))
      (later others grown)
    refine (entered_of_walks hw id hid).imp_right ?_
    rintro ⟨u, hu, v, leads, he⟩
    obtain ⟨loop, reachable, executed, kind, first⟩ := begins u hu
    exact ⟨loop, reachable, grown executed, kind, u, first, v, leads, he⟩

theorem accounted_machine (limit : Nat) (exchange : Http.Exchange) (draws : Draws)
    (graph : Graph) :
    Accounted ⟨graph, .builtin⟩ ((builtin limit exchange draws).machine graph) := by
  refine accounted_of_walks (Interpreter.walks_machine limit exchange draws graph)
    ⟨nofun, fun id hid => ?_⟩ (fun u hu => ?_) (Route.bodies_ofNodes _ _)
  · exact absurd hid (by simp [Machine.executed, nodesOf])
  · rw [Route.nodes_ofNodes] at hu
    exact .entry hu

/-- Whatever a run executes more than once lies in the body of a loop that it has executed. Where
control comes to no loop, nothing is executed twice. -/
theorem run_repeats_loopBodies (limit : Nat) (exchange : Http.Exchange) (draws : Draws)
    (graph : Graph) :
    let w : Workspace := ⟨graph, .builtin⟩
    let order := ((builtin limit exchange draws).run graph).visited
    (∀ id, 2 ≤ order.count id → w.InLoopBody order id) ∧
      ((∀ v, w.Reachable v → v.kind ≠ Kind.whileLoop.name ∧ v.kind ≠ Kind.forLoop.name) →
        order.Nodup) := by
  intro w order
  have accounted := accounted_machine limit exchange draws graph
  refine ⟨accounted.again, fun loopless => List.nodup_iff_count_le_one.mpr fun id => ?_⟩
  by_contra twice
  obtain ⟨loop, reachable, -, kind, -⟩ := accounted.again id (Nat.lt_of_not_le twice)
  exact kind.elim (loopless loop reachable).1 (loopless loop reachable).2

end Script

end ScriptGraph
