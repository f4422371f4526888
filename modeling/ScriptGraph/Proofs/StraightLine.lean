import ScriptGraph.Proofs.Agreement

/-! # Straight lines

Where control never comes to a node that chooses among its outputs, the generator and the
interpreter both follow every control output of every node that they enter. They stay in step
however often control edges come together and whatever cycles they form, because both enter a node
only once.
-/

namespace ScriptGraph

open Script (Machine)
open Source (Draft)

namespace Workspace

variable {w : Workspace} {limit : Nat} {has : PortRef → Bool} {v : Node} {r : Route}

/-- Control comes to no node that chooses among its outputs or repeats one of them. -/
def StraightLine (w : Workspace) : Prop :=
  ∀ v, w.Reachable v → ∀ kind ∈ Kind.ofName? v.kind, kind.branches = false

/-- An execution of a node that does not branch leads along every output. -/
theorem Leads.eq_ofNodes (h : w.Leads limit has v r)
    (hb : ∀ kind ∈ Kind.ofName? v.kind, kind.branches = false) :
    r = .ofNodes (w.controlSuccessors v none) := by
  cases h with
  | all => rfl
  | nowhere hk hd => exact absurd (Kind.branches_of_decides hd) (by simp [hb _ hk])
  | choice hk hd => exact absurd (Kind.branches_of_decides hd) (by simp [hb _ hk])
  | rounds hk hl => exact absurd (Kind.branches_of_loops hl) (by simp [hb _ hk])

end Workspace

/-- A run and a pass that agree and have come to the same nodes in the same order. -/
structure InStep (m : Machine) (d : Draft) : Prop extends Agree m d where
  entered : m.visited.visited = d.visited.visited
  same : m.executed = d.emitted

namespace InStep

variable {s : Script.Setting} {t : Source.Setting} {v : Node} {m m' : Machine} {d d' : Draft}
  {inner inner' : Route}

theorem began (h : InStep m d) (v : Node) : InStep (Script.began v m) (Source.began v d) where
  toAgree := h.toAgree.began v
  entered := congrArg (v.id :: ·) h.entered
  same := by rw [Script.executed_began, Source.emitted_began, h.same]

theorem paused (h : InStep m d) (hp : (Source.traversal t).pause d d') : InStep m d' := by
  have agree := h.toAgree.walk (t := t) (.pause hp .stop)
  obtain ⟨es, hp, rfl⟩ := hp
  exact ⟨agree, h.entered, by rw [Source.emitted_logged, hp.nodesOf_eq, List.append_nil, h.same]⟩

theorem idle (h : InStep m d) (walk : Walks (Script.traversal s) s.toWorkspace m .stop m') :
    InStep m' d := by
  have agree := h.toAgree.idle walk
  generalize he : Route.stop = route at walk
  induction walk with
  | stop => exact h
  | @pause m m₁ _ _ hp _ ih =>
    obtain ⟨_, _, _, own⟩ := hp
    have paused : Agree m₁ d := h.toAgree.own own fun _ hp => absurd hp List.not_mem_nil
    refine ih ⟨paused, ?_, ?_⟩ agree he
    · rw [Script.Own.visited_eq own, h.entered]
    · rw [Script.Own.executed_eq own, h.same]
  | _ => cases he

theorem work (hs : s.toWorkspace = t.toWorkspace) (h : InStep m d)
    (run : Script.Works s v m inner' m') (text : Source.Works t v d inner d') : InStep m' d' where
  toAgree := h.toAgree.work hs run text
  entered := by rw [run.own.visited_eq, Source.Own.visited_eq text.own, h.entered]
  same := by rw [run.own.executed_eq, Source.Own.emitted_eq text.own, h.same]

end InStep

section

variable {s : Script.Setting} {t : Source.Setting} {m m' : Machine} {d d' : Draft}

/-- A run and a pass stay in step along the same nodes. -/
theorem inStep_of_walks {r : Route} {ns : List Node} (hs : s.toWorkspace = t.toWorkspace)
    (straight : t.StraightLine) (text : Walks (Source.traversal t) t.toWorkspace d r d')
    (run : Walks (Script.traversal s) s.toWorkspace m r m') (hr : r = .ofNodes ns)
    (reachable : ∀ v ∈ ns, t.Reachable v) (h : InStep m d) : InStep m' d' := by
  -- The run is taken apart at the first node of its route, in front of which it may have paused.
  induction text generalizing m m' ns with
  | stop => exact h.idle run
  | pause hp _ ih => exact ih run hr reachable (h.paused hp)
  | @seen d _ v _ hv _ ih =>
    obtain _ | ⟨u, ns⟩ := ns
    · cases hr
    obtain ⟨rfl, rfl⟩ := Route.visit.inj hr
    obtain ⟨m₀, idle, ⟨-, last⟩ | ⟨_, _, _, hnew, -⟩⟩ := run.visit_cases
    · exact ih last rfl (fun u hu => reachable u (List.mem_cons_of_mem v hu)) (h.idle idle)
    · rw [show (Script.traversal s).visited m₀ = d.visited.visited from (h.idle idle).entered]
        at hnew
      exact absurd hv hnew
  | @enter d d₁ d₂ d' v inner _ _ hv hw hi hrest ihi ihr =>
    obtain _ | ⟨u, ns⟩ := ns
    · cases hr
    obtain ⟨rfl, rfl⟩ := Route.visit.inj hr
    obtain ⟨m₀, idle, ⟨hold, -⟩ | ⟨m₁, m₂, inner', -, hw', hi', last⟩⟩ := run.visit_cases
    · rw [show (Script.traversal s).visited m₀ = d.visited.visited from (h.idle idle).entered]
        at hold
      exact absurd hold hv
    · have hb := straight v (reachable v List.mem_cons_self)
      have route : inner = .ofNodes (t.controlSuccessors v none) := by
        rw [hw.route, Workspace.textRoute_of_not_branches hb]
      have route' : inner' = inner := by
        rw [route, ← hs]
        exact hw'.route.eq_ofNodes hb
      have begun : InStep m₁ d₁ := ((h.idle idle).began v).work hs hw' hw
      have below := ihi (route' ▸ hi') route (fun u hu =>
        .step (reachable v List.mem_cons_self) hu) begun
      exact ihr last rfl (fun u hu => reachable u (List.mem_cons_of_mem v hu)) below
  | inside => cases ns <;> cases hr

end

/-- A run and a pass go through the same nodes in the same order, and an input that gives a value
when an execution begins gives an expression when the emission of the same node begins. -/
structure Lockstep (i : Script.Interpreter) (g : Source.Generator) (graph : Graph) : Prop extends
    Agreement i g graph where
  same : (i.run graph).visited = (g.draft graph).emitted

/-- On a graph in which control never comes to a branch or a loop, the built-in interpreter executes
what the built-in generator emits, in the same order and with no more to read. -/
theorem lockstep_of_straightLine (options : Source.Options) (limit : Nat)
    (exchange : Http.Exchange) (draws : Script.Draws) (graph : Graph)
    (straight : (Workspace.mk graph .builtin).StraightLine) :
    Lockstep (Script.builtin limit exchange draws) (Source.builtin options) graph := by
  let w : Workspace := ⟨graph, .builtin⟩
  have start : InStep {} ((Source.builtin options).start graph) :=
    ⟨agree_start options graph, rfl, rfl⟩
  have entries : ∀ v ∈ w.entryNodes, w.Reachable v := fun _ => .entry
  have step : InStep ((Script.builtin limit exchange draws).machine graph)
      ((Source.builtin options).draft graph) :=
    inStep_of_walks rfl straight (Source.Generator.walks_draft options graph)
      (Script.Interpreter.walks_machine limit exchange draws graph) rfl entries start
  exact { step.toAgree.agreement with same := step.same }

/-- A line that shows a random number, and from which control goes back to the drawing of the
number and on to a node of a kind that is not known. -/
def roundabout : Graph :=
  .ofLists
    [{ id := .ofNat 1, kind := Kind.onStart.name }, { id := .ofNat 2, kind := Kind.random.name },
      { id := .ofNat 3, kind := Kind.log.name }, { id := .ofNat 4, kind := "Custom" },
      { id := .ofNat 5, kind := Kind.jsonStringify.name }]
    [.between (.ofNat 1) 0 (.ofNat 2) 0, .between (.ofNat 1) 0 (.ofNat 3) 0,
      .between (.ofNat 2) 0 (.ofNat 3) 0, .between (.ofNat 3) 0 (.ofNat 2) 0,
      .between (.ofNat 3) 0 (.ofNat 4) 0, .between (.ofNat 4) 3 (.ofNat 5) 0,
      .between (.ofNat 4) 1 (.ofNat 2) 0, .between (.ofNat 2) 1 (.ofNat 3) 1,
      .between (.ofNat 2) 1 (.ofNat 5) 1]

theorem roundabout_straightLine : (Workspace.mk roundabout .builtin).StraightLine := by
  intro v hv
  have none : ∀ v ∈ roundabout.nodes.toList,
      ∀ kind ∈ Kind.ofName? v.kind, kind.branches = false := by decide +kernel
  exact none v (Workspace.mem_nodes_of_reachable hv)

theorem roundabout_lockstep :
    (Workspace.mk roundabout .builtin).StraightLine ∧
      Lockstep (Script.builtin 0 .unreachable (.ofSeed 0)) (Source.builtin {}) roundabout ∧
      ((Source.builtin {}).draft roundabout).emitted =
        [.ofNat 1, .ofNat 2, .ofNat 3, .ofNat 4, .ofNat 5] :=
  ⟨roundabout_straightLine,
    lockstep_of_straightLine {} 0 .unreachable (.ofSeed 0) roundabout roundabout_straightLine,
    by decide +kernel⟩

end ScriptGraph
