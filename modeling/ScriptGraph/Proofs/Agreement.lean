import ScriptGraph.Proofs.Script.Reached
import ScriptGraph.Proofs.Source.Act

/-! # The generator and the interpreter agree

The generator walks all branches of a graph and the interpreter at most one of each decision. On a
forest without loops the walk of the interpreter is a part of the walk of the generator: it comes to
nodes in the same order, and with no more outputs recorded.
-/

namespace ScriptGraph

open Script (Machine)
open Source (Draft)

/-- Each node that a run begins is begun by a pass as well, with at least as much recorded. -/
def Covers (es : List Script.Event) (es' : List Source.Event) : Prop :=
  ∀ before id after, es = before ++ .node id :: after →
    ∃ before' after', es' = before' ++ .node id :: after' ∧
      ∀ output, (Machine.after before).outputs.contains output →
        (Draft.after before').outputs.contains output

namespace Covers

variable {es more : List Script.Event} {es' es'' : List Source.Event}

theorem append_left (h : Covers es es') (hn : Script.nodesOf more = []) :
    Covers (es ++ more) es' := by
  have none (id : NodeId) : .node id ∉ more := by
    intro hm
    have : id ∈ Script.nodesOf more := List.mem_filterMap.mpr ⟨_, hm, rfl⟩
    simp [hn] at this
  intro before id after he
  rcases List.append_eq_append_iff.mp he with ⟨between, -, hm⟩ | ⟨between, hb, hm⟩
  · exact absurd (by simp [hm]) (none id)
  · cases between with
    | nil =>
      have hm : .node id :: after = more := hm
      exact absurd (by simp [← hm]) (none id)
    | cons e between =>
      obtain ⟨rfl, -⟩ := List.cons.inj hm
      exact h before id between hb

theorem mono_right (h : Covers es es') (hp : es' <+: es'') : Covers es es'' := by
  intro before id after he
  obtain ⟨before', after', he', ho⟩ := h before id after he
  obtain ⟨rest, rfl⟩ := hp
  exact ⟨before', after' ++ rest, by simp [he'], ho⟩

theorem node (h : Covers es es')
    (ho : ∀ output, (Machine.after es).outputs.contains output →
      (Draft.after es').outputs.contains output) (id : NodeId) :
    Covers (es ++ [.node id]) (es' ++ [.node id]) := by
  intro before id' after he
  rcases List.eq_nil_or_concat after with rfl | ⟨after, last, rfl⟩
  · obtain ⟨rfl, hl⟩ := List.append_inj' he rfl
    obtain rfl : id = id' := by simpa using hl
    exact ⟨es', [], rfl, ho⟩
  · rw [List.concat_eq_append, ← List.cons_append, ← List.append_assoc] at he
    exact h.mono_right (List.prefix_append _ _) before id' after (List.append_inj' he rfl).1

end Covers

/-- What a run has done so far, a pass has text for. -/
structure Agree (m : Machine) (d : Draft) : Prop where
  ran : m.Told
  wrote : d.Told
  recorded (output : PortRef) : m.outputs.contains output → d.outputs.contains output
  order : m.executed.Sublist d.emitted
  covers : Covers m.log.toList d.log.toList

namespace Agree

variable {s : Script.Setting} {v : Node} {m m' : Machine} {d d' : Draft}

/-- The pass may go on by itself. -/
theorem later (h : Agree m d) (hd : d.log.toList <+: d'.log.toList) (hd' : d'.Told) :
    Agree m d' where
  ran := h.ran
  wrote := hd'
  recorded output ho := by
    obtain ⟨es, he⟩ := hd
    rw [hd', ← he]
    refine Table.contains_replay_append ?_ es
    rw [← h.wrote]
    exact h.recorded output ho
  order := h.order.trans (hd.filterMap _).sublist
  covers := h.covers.mono_right hd

/-- The run may record where the pass has recorded. -/
theorem own {ports : List Nat} (h : Agree m d) (own : Script.Own v ports m m')
    (hp : ∀ port ∈ ports, d.outputs.contains ⟨v.id, port⟩) : Agree m' d where
  ran := own.told h.ran
  wrote := h.wrote
  recorded output ho := by
    rcases own.contains_outputs ho with ho | ⟨port, hport, rfl⟩
    · exact h.recorded output ho
    · exact hp port hport
  order := own.executed_eq ▸ h.order
  covers := by
    obtain ⟨es, he, hes⟩ := Script.Operation.steps_log_eq own
    rw [he]
    exact h.covers.append_left (Script.Event.IsOwn.nodesOf_eq hes)

theorem began (h : Agree m d) (v : Node) : Agree (Script.began v m) (Source.began v d) where
  ran := h.ran.began v
  wrote := h.wrote.began v
  recorded := h.recorded
  order := by
    rw [Script.executed_began, Source.emitted_began]
    exact h.order.append (List.Sublist.refl _)
  covers := by
    change Covers (m.logged [.node v.id]).log.toList (d.logged [.node v.id]).log.toList
    rw [Machine.log_logged, Draft.log_logged]
    refine h.covers.node (fun output ho => ?_) v.id
    rw [Machine.after, ← h.ran.outputs] at ho
    rw [Draft.after, ← h.wrote]
    exact h.recorded output ho

theorem opened (h : Agree m d) : Agree m (Source.opened d) :=
  h.later ⟨[.indent], (d.log_logged _).symm⟩ h.wrote.opened

theorem closed (h : Agree m d) : Agree m (Source.closed d) :=
  h.later ⟨[.dedent], (d.log_logged _).symm⟩ h.wrote.closed

theorem idle (h : Agree m d) (walk : Walks (Script.traversal s) s.toWorkspace m .stop m') :
    Agree m' d := by
  generalize he : Route.stop = route at walk
  induction walk with
  | stop => exact h
  | pause hp _ ih =>
    obtain ⟨_, _, _, own⟩ := hp
    exact ih (h.own own fun _ hp => absurd hp List.not_mem_nil) he
  | _ => cases he

end Agree

/-! ### Routes -/

namespace Workspace

variable {w : Workspace} {limit : Nat} {has has' : PortRef → Bool} {v : Node} {r : Route}

theorem sublist_nodes_scopes {ports : List Nat} {port : Nat} (h : port ∈ ports) :
    (w.controlSuccessors v (some port)).Sublist (w.scopes v ports).nodes := by
  rw [nodes_scopes, List.flatMap]
  exact List.sublist_flatten_of_mem (List.mem_map_of_mem h)

/-- Where an execution of a node leads, the text of the node leads as well, unless the node is a
loop. -/
theorem Leads.nodes_sublist (h : w.Leads limit has v r)
    (hl : ∀ kind ∈ Kind.ofName? v.kind, kind.loops = false)
    (ho : ∀ output, has output → has' output) :
    ∃ ns, r = .ofNodes ns ∧ ns.Sublist (w.textRoute has' v).nodes := by
  cases h with
  | all hk =>
    refine ⟨_, rfl, ?_⟩
    rw [textRoute_of_not_branches fun kind hkind => (hk kind hkind).resolve_right (by
      simp [hl kind hkind]), Route.nodes_ofNodes]
  | nowhere => exact ⟨[], rfl, List.nil_sublist _⟩
  | @choice kind port hk hd hoffers hp =>
    refine ⟨_, rfl, ?_⟩
    have offers (index : Nat) (hi : index ∈ kind.decisive) : w.offers has' v index :=
      offers_mono ho (hoffers index hi)
    unfold textRoute
    rw [hk]
    cases kind with
    | ifThen =>
      have left := offers 1 (by simp [Kind.decisive])
      have right := offers 2 (by simp [Kind.decisive])
      simp only [left, right, Bool.and_self, if_true]
      exact sublist_nodes_scopes hp
    | condition => exact sublist_nodes_scopes hp
    | switch =>
      have value := offers 1 (by simp [Kind.decisive])
      simp only [value, if_true, Route.nodes, List.append_nil]
      exact sublist_nodes_scopes hp
    | _ => cases hd
  | @rounds kind _ hk hloops => exact absurd hloops (by simp [hl kind hk])

end Workspace

/-! ### Walks -/

section

variable {s : Script.Setting} {t : Source.Setting} {v : Node} {m m' : Machine} {d d' : Draft}
  {inner inner' : Route}

/-- Both work at a node. -/
theorem Agree.work (hs : s.toWorkspace = t.toWorkspace) (h : Agree m d)
    (run : Script.Works s v m inner' m') (text : Source.Works t v d inner d') : Agree m' d' := by
  obtain ⟨es, he⟩ := Source.Own.log_eq text.own
  have text' : Agree m d' := h.later ⟨es, he.symm⟩ (Source.Own.told text.own h.wrote)
  refine text'.own run.own fun port hp => text.records port ?_
  rw [hs] at hp
  exact Workspace.results_mono h.recorded hp

theorem Agree.walk {r : Route} (h : Agree m d)
    (walk : Walks (Source.traversal t) t.toWorkspace d r d') : Agree m d' :=
  h.later (Source.log_prefix_of_walks walk) (Source.preserves_told.walks walk h.wrote)

/-- A run along some of the nodes that a pass walks agrees with it. -/
theorem agree_of_walks {r : Route} {ns : List Node} {ahead : List NodeId}
    (hs : s.toWorkspace = t.toWorkspace) (forest : t.BranchingForest)
    (text : Walks (Source.traversal t) t.toWorkspace d r d')
    (run : Walks (Script.traversal s) s.toWorkspace m (.ofNodes ns) m')
    (hns : ns.Sublist r.nodes) (hr : ∀ v ∈ r.nodes, t.Reachable v)
    (fresh : t.Fresh d.visited.visited (r.nodes.map (·.id) ++ ahead)) (h : Agree m d) :
    Agree m' d' := by
  induction text generalizing m m' ns ahead with
  | stop =>
    obtain rfl : ns = [] := List.sublist_nil.mp hns
    exact h.idle run
  | pause hp _ ih =>
    have paused := h.walk (.pause hp .stop)
    obtain ⟨es, -, rfl⟩ := hp
    exact ih run hns hr fresh paused
  | seen hv _ _ => exact absurd hv (fresh.not_mem (by simp [Route.nodes]))
  | @enter d d₁ d₂ d' v inner rest hn hv hw hi hrest ihi ihr =>
    have reachable : t.Reachable v := hr v List.mem_cons_self
    have fresh₁ := Source.Works.fresh hw hn hv fresh
    have fresh₂ := Source.fresh_of_walks hi fresh₁
    have later : ∀ u ∈ rest.nodes, t.Reachable u := fun u hu => hr u (List.mem_cons_of_mem v hu)
    -- The pass may walk the node and all below it while the run stays where it is.
    have alone {m : Machine} (h : Agree m d) : Agree m d₂ := h.walk (.enter hn hv hw hi .stop)
    rcases List.sublist_cons_iff.mp hns with hskip | ⟨ns', rfl, hrest⟩
    · exact ihr run hskip later fresh₂ (alone h)
    · obtain ⟨m₀, idle, ⟨-, last⟩ | ⟨m₁, m₂, inner', -, hw', hi', last⟩⟩ := run.visit_cases
      · exact ihr last hrest later fresh₂ (alone (h.idle idle))
      · have start : Agree (Script.began v m₀) (Source.began v d) := (h.idle idle).began v
        have route : inner = t.textRoute (Source.began v d).outputs.contains v := hw.route
        obtain ⟨ns, rfl, hns⟩ := Workspace.Leads.nodes_sublist (hs ▸ hw'.route)
          (forest.not_loops reachable) start.recorded
        rw [← route] at hns
        have below : ∀ u ∈ inner.nodes, t.Reachable u := fun u hu =>
          .step reachable ((Source.Works.nodes_subperm hw).subset hu)
        exact ihr last hrest later fresh₂ (ihi hi' hns below fresh₁ (start.work hs hw' hw))
  | @inside d _ d₂ _ _ body rest ho hb hc hrest ihb ihr =>
    obtain rfl := ho
    obtain rfl := hc
    rw [Route.nodes, List.map_append, List.append_assoc] at fresh
    obtain ⟨ns₁, ns₂, rfl, hns₁, hns₂⟩ := List.sublist_append_iff.mp hns
    rw [Route.ofNodes_append] at run
    obtain ⟨m₁, run₁, run₂⟩ := run.split
    have body := ihb run₁ hns₁ (fun u hu => hr u (List.mem_append_left _ hu)) fresh h.opened
    exact ihr run₂ hns₂ (fun u hu => hr u (List.mem_append_right _ hu))
      (Source.fresh_of_walks hb fresh) body.closed

end

/-! ### Whole runs -/

/-- A run is part of a pass: what it executes is emitted, in the same order, and an input that gives
a value in the state in which an execution begins gives an expression in the state in which the
emission of the same node begins. -/
structure Agreement (i : Script.Interpreter) (g : Source.Generator) (graph : Graph) : Prop where
  ran : i.Course graph
  wrote : g.Course graph
  order : (i.run graph).visited.Sublist (g.draft graph).emitted
  inputs {m : Machine} (hm : i.Occurs graph m) {id : NodeId} {after : List Script.Event}
    (h : (i.run graph).log = m.log.toList ++ .node id :: after) :
    ∃ d after', g.Occurs graph d ∧
      (g.draft graph).log.toList = d.log.toList ++ .node id :: after' ∧
      ∀ v ∈ graph.nodes.toList, v.id = id → ∀ index,
        (((i.setting graph).input v index).run m).1.isSome →
          (((g.setting graph).input v index).run d).1.isSome

theorem agree_start (options : Source.Options) (graph : Graph) :
    Agree {} ((Source.builtin options).start graph) where
  ran := ⟨rfl, rfl⟩
  wrote := rfl
  recorded _ h := h
  order := List.Sublist.refl _
  covers before id after he := by simp at he

/-- Where a whole run agrees with a whole pass, it is part of it. -/
theorem Agree.agreement {options : Source.Options} {limit : Nat} {exchange : Http.Exchange}
    {draws : Script.Draws} {graph : Graph}
    (h : Agree ((Script.builtin limit exchange draws).machine graph)
      ((Source.builtin options).draft graph)) :
    Agreement (Script.builtin limit exchange draws) (Source.builtin options) graph where
  ran := Script.Interpreter.course .builtin limit exchange draws false graph
  wrote := Source.Generator.course options .builtin graph
  order := h.order
  inputs {m} hm id after he := by
    obtain ⟨before', after', he', recorded⟩ := h.covers m.log.toList id after he
    obtain ⟨d, hd, rfl⟩ := (Source.Generator.course options .builtin graph).begins he'
    refine ⟨d, after', hd, he', fun v _ _ index hv => ?_⟩
    rw [Machine.after, ← hm.told.outputs, Draft.after, ← hd.told] at recorded
    rw [Script.isSome_input hm.nameless] at hv
    rw [Source.isSome_input]
    exact Workspace.offers_mono recorded hv

theorem agree_of_forest (options : Source.Options) (limit : Nat) (exchange : Http.Exchange)
    (draws : Script.Draws) (graph : Graph)
    (forest : (Workspace.mk graph .builtin).BranchingForest) :
    Agree ((Script.builtin limit exchange draws).machine graph)
      ((Source.builtin options).draft graph) := by
  let w : Workspace := ⟨graph, .builtin⟩
  have roots : (Route.ofNodes w.entryNodes).nodes = w.entryNodes := Route.nodes_ofNodes _
  have along : w.entryNodes.Sublist (Route.ofNodes w.entryNodes).nodes := by
    rw [roots]
  have reachable : ∀ v ∈ (Route.ofNodes w.entryNodes).nodes, w.Reachable v := by
    intro v hv
    exact .entry (roots ▸ hv)
  have fresh : w.Fresh [] ((Route.ofNodes w.entryNodes).nodes.map (·.id) ++ []) := by
    rw [roots, List.append_nil]
    exact forest.fresh
  exact agree_of_walks rfl forest (Source.Generator.walks_draft options graph)
    (Script.Interpreter.walks_machine limit exchange draws graph) along reachable fresh
    (agree_start options graph)

/-- On a graph whose control edges form a forest, and in which control does not come to a loop, the
built-in generator has text for all that the built-in interpreter does. -/
theorem agreement_of_forest (options : Source.Options) (limit : Nat) (exchange : Http.Exchange)
    (draws : Script.Draws) (graph : Graph)
    (forest : (Workspace.mk graph .builtin).BranchingForest) :
    Agreement (Script.builtin limit exchange draws) (Source.builtin options) graph :=
  (agree_of_forest options limit exchange draws graph forest).agreement

/-- A condition with a conversion and two lines that show something behind it. -/
def eitherWay : Graph :=
  .ofLists
    [{ id := .ofNat 1, kind := Kind.onStart.name }, { id := .ofNat 2, kind := Kind.condition.name },
      { id := .ofNat 3, kind := Kind.jsonStringify.name },
      { id := .ofNat 4, kind := Kind.log.name }, { id := .ofNat 5, kind := Kind.log.name },
      { id := .ofNat 6, kind := Kind.constant.name }]
    [.between (.ofNat 1) 0 (.ofNat 2) 0, .between (.ofNat 2) 0 (.ofNat 3) 0,
      .between (.ofNat 2) 1 (.ofNat 4) 0, .between (.ofNat 3) 0 (.ofNat 5) 0,
      .between (.ofNat 6) 0 (.ofNat 3) 1, .between (.ofNat 3) 1 (.ofNat 5) 1]

theorem eitherWay_forest : (Workspace.mk eitherWay .builtin).BranchingForest :=
  .of_nodes (by decide +kernel) (by decide +kernel) (by decide +kernel) (by decide +kernel)

theorem eitherWay_agreement :
    (Workspace.mk eitherWay .builtin).BranchingForest ∧
      Agreement (Script.builtin 0 .unreachable (.ofSeed 0)) (Source.builtin {}) eitherWay ∧
      ((Source.builtin {}).draft eitherWay).emitted =
        [.ofNat 1, .ofNat 2, .ofNat 3, .ofNat 5, .ofNat 4] ∧
      ((Script.builtin 0 .unreachable (.ofSeed 0)).run eitherWay).visited =
        [.ofNat 1, .ofNat 2, .ofNat 3, .ofNat 5] :=
  ⟨eitherWay_forest, agreement_of_forest {} 0 .unreachable (.ofSeed 0) eitherWay eitherWay_forest,
    by decide +kernel, by decide +kernel⟩

end ScriptGraph
