import ScriptGraph.Proofs.Source.Traversal

/-! # Generation is a depth-first search

The order in which nodes are emitted: no node twice, nothing but what entry nodes lead to, and all
of it, with the exceptions that the routes of the generator name.
-/

namespace ScriptGraph.Source

/-- The nodes that events begin, in their order. -/
def nodesOf (es : List Event) : List NodeId :=
  es.filterMap fun
    | .node id => some id
    | _ => none

/-- The nodes that have been emitted, in their order. -/
def Draft.emitted (d : Draft) : List NodeId :=
  nodesOf d.log.toList

@[simp] theorem nodesOf_append (es es' : List Event) :
    nodesOf (es ++ es') = nodesOf es ++ nodesOf es' :=
  List.filterMap_append

theorem nodesOf_flat {es : List Event} (h : ∀ e ∈ es, e.isFlat) : nodesOf es = [] := by
  rw [nodesOf, List.filterMap_eq_nil_iff]
  intro e he
  have := h e he
  cases e <;> simp_all [Event.isFlat]

theorem Prose.nodesOf_eq {temporaries : List String} {es : List Event}
    (h : Prose temporaries es) : nodesOf es = [] := by
  refine List.filterMap_eq_nil_iff.mpr fun e he => ?_
  have prose := h.isProse e he
  cases e with
  | write | blank | indent | dedent => rfl
  | _ => cases prose

@[simp] theorem emitted_logged (d : Draft) (es : List Event) :
    (d.logged es).emitted = d.emitted ++ nodesOf es := by
  simp [Draft.emitted]

theorem emitted_began (v : Node) (d : Draft) : (began v d).emitted = d.emitted ++ [v.id] :=
  emitted_logged d [.node v.id]

theorem emitted_opened (d : Draft) : (opened d).emitted = d.emitted :=
  (emitted_logged d [.indent]).trans (List.append_nil _)

theorem emitted_closed (d : Draft) : (closed d).emitted = d.emitted :=
  (emitted_logged d [.dedent]).trans (List.append_nil _)

theorem Own.emitted_eq {s : Setting} {v : Node} {d d' : Draft} (h : Own s v d d') :
    d'.emitted = d.emitted := by
  induction h with
  | refl => rfl
  | tail _ h ih =>
    obtain ⟨es, he, hp | hf⟩ := h.log_eq
    · obtain ⟨_, hp⟩ := hp
      rw [← ih, Draft.emitted, he, nodesOf_append, hp.nodesOf_eq, List.append_nil]
      rfl
    · rw [← ih, Draft.emitted, he, nodesOf_append, nodesOf_flat hf, List.append_nil]
      rfl

section

variable {s : Setting} {d d' : Draft} {r : Route}

theorem preserves_logged (es : List Event) :
    (traversal s).Preserves fun d => es <+: d.log.toList where
  enter {v d d' r} hs _ hw := by
    obtain ⟨es', he⟩ := hw.own.log_eq
    rw [he]
    refine (hs.trans ?_).trans (List.prefix_append _ es')
    exact ⟨[.node v.id], (d.log_logged _).symm⟩
  pause hs hp := by
    obtain ⟨es', -, rfl⟩ := hp
    exact hs.trans ⟨es', (Draft.log_logged _ _).symm⟩
  opens hs ho := by
    obtain rfl := ho
    exact hs.trans ⟨[.indent], (Draft.log_logged _ _).symm⟩
  closes _ hs hc := by
    obtain rfl := hc
    exact hs.trans ⟨[.dedent], (Draft.log_logged _ _).symm⟩

/-- What is logged stays logged. -/
theorem log_prefix_of_walks (h : Walks (traversal s) s.toWorkspace d r d') :
    d.log.toList <+: d'.log.toList :=
  (preserves_logged _).walks h List.prefix_rfl

/-- The nodes entered are those emitted. -/
theorem preserves_entered :
    (traversal s).Preserves fun d => d.visited.visited = d.emitted.reverse where
  enter {v d d' r} hd _ hw := by
    rw [hw.own.visited_eq, hw.own.emitted_eq]
    change v.id :: d.visited.visited = (began v d).emitted.reverse
    rw [emitted_began, hd, List.reverse_append]
    rfl
  pause hd hp := by
    obtain ⟨es, hp, rfl⟩ := hp
    rw [emitted_logged, hp.nodesOf_eq, List.append_nil]
    exact hd
  opens hd ho := by
    obtain rfl := ho
    rw [emitted_opened]
    exact hd
  closes _ hd hc := by
    obtain rfl := hc
    rw [emitted_closed]
    exact hd

/-- The node is an entry node or a control successor of one of certain nodes. -/
def Led (w : Workspace) (order : List NodeId) (v : Node) : Prop :=
  v ∈ w.entryNodes ∨
    ∃ u ∈ w.graph.nodes.toList, u.id ∈ order ∧ v ∈ w.controlSuccessors u none

/-- Every node is led to by those before it. -/
def Grows (w : Workspace) (order : List NodeId) : Prop :=
  ∀ before id after, order = before ++ id :: after →
    ∃ v ∈ w.graph.nodes.toList, v.id = id ∧ Led w before v

theorem Led.mono {w : Workspace} {order order' : List NodeId} {v : Node} (h : Led w order v)
    (ho : order ⊆ order') : Led w order' v :=
  h.imp_right fun ⟨u, hn, hu, hs⟩ => ⟨u, hn, ho hu, hs⟩

theorem Grows.concat {w : Workspace} {order : List NodeId} {v : Node} (h : Grows w order)
    (hn : v ∈ w.graph.nodes.toList) (hv : Led w order v) : Grows w (order ++ [v.id]) := by
  intro before id after he
  rcases List.eq_nil_or_concat after with rfl | ⟨after, last, rfl⟩
  · obtain ⟨rfl, hl⟩ := List.append_inj' he rfl
    obtain rfl : v.id = id := by simpa using hl
    exact ⟨v, hn, rfl, hv⟩
  · refine h before id after ?_
    rw [List.concat_eq_append, ← List.cons_append, ← List.append_assoc] at he
    exact (List.append_inj' he rfl).1

theorem emitted_prefix_of_walks (h : Walks (traversal s) s.toWorkspace d r d') :
    d.emitted <+: d'.emitted :=
  (log_prefix_of_walks h).filterMap _

/-- A walk enters nothing that is not led to. -/
theorem grows_of_walks (h : Walks (traversal s) s.toWorkspace d r d')
    (hg : Grows s.toWorkspace d.emitted) (hr : ∀ v ∈ r.nodes, Led s.toWorkspace d.emitted v) :
    Grows s.toWorkspace d'.emitted := by
  induction h with
  | stop => exact hg
  | pause hp _ ih =>
    obtain ⟨es, hp, rfl⟩ := hp
    rw [emitted_logged, hp.nodesOf_eq, List.append_nil] at ih
    exact ih hg hr
  | seen _ _ ih => exact ih hg fun u hu => hr u (List.mem_cons_of_mem _ hu)
  | @enter d d₁ d₂ _ v inner _ hn _ hw hi _ ihi ihr =>
    have begun : d₁.emitted = d.emitted ++ [v.id] := by
      rw [hw.own.emitted_eq]
      exact emitted_began v d
    have later : d.emitted ⊆ d₂.emitted := by
      refine List.Subset.trans ?_ (emitted_prefix_of_walks hi).subset
      rw [begun]
      exact List.subset_append_left _ _
    refine ihr (ihi ?_ ?_) fun u hu => (hr u (List.mem_cons_of_mem v hu)).mono later
    · rw [begun]
      exact hg.concat hn (hr v List.mem_cons_self)
    · intro u hu
      refine .inr ⟨v, hn, by simp [begun], ?_⟩
      rw [hw.route] at hu
      exact Workspace.nodes_textRoute_subperm.subset hu
  | inside ho hb hc _ ihb ihr =>
    obtain rfl := ho
    obtain rfl := hc
    rw [emitted_opened] at ihb
    rw [emitted_closed] at ihr
    have later := (emitted_prefix_of_walks hb).subset
    rw [emitted_opened] at later
    exact ihr (ihb hg fun u hu => hr u (List.mem_append_left _ hu)) fun u hu =>
      (hr u (List.mem_append_right _ hu)).mono later

/-! ### Closure -/

/-- A control successor of an emitted node has been emitted, or the pass had a reason to leave it
out: a decision that read nothing, or a counting loop that does not count. -/
def Omits (s : Setting) (d : Draft) (u v : Node) : Prop :=
  (u.kind = Kind.ifThen.name ∧ ∃ index ∈ [1, 2], .read ⟨u.id, index⟩ none ∈ d.log.toList) ∨
    (u.kind = Kind.switch.name ∧ .read ⟨u.id, 1⟩ none ∈ d.log.toList) ∨
      (u.kind = Kind.forLoop.name ∧ (s.loopStep u == 0) = true ∧
        v ∈ s.controlSuccessors u (some 0))

theorem Omits.mono {u v : Node} (h : Omits s d u v) (hd : d.log.toList ⊆ d'.log.toList) :
    Omits s d' u v :=
  h.imp (fun ⟨hk, index, hi, hr⟩ => ⟨hk, index, hi, hd hr⟩) fun h =>
    h.imp_left fun ⟨hk, hr⟩ => ⟨hk, hd hr⟩

theorem Works.omits {u v : Node} (h : Works s u d r d')
    (hv : s.Withholds d.outputs.contains u v) : Omits s d' u v := by
  obtain ⟨kind, hk, index, hi, ho⟩ | hl := hv
  · have hread := h.reads kind hk index hi
    have hnone : s.given d.outputs u index = none := by
      rw [← Option.not_isSome_iff_eq_none, s.isSome_given, ho]
      exact Bool.false_ne_true
    rw [hnone] at hread
    have hname := Kind.ofName?_eq_some_iff.mp hk
    cases kind with
    | ifThen => exact .inl ⟨hname, index, hi, hread⟩
    | switch =>
      obtain rfl := List.mem_singleton.mp hi
      exact .inr (.inl ⟨hname, hread⟩)
    | _ => exact absurd hi List.not_mem_nil
  · exact .inr (.inr hl)

theorem preserves_nodup : (traversal s).Preserves fun d => d.visited.visited.Nodup where
  enter hd hv hw := by
    rw [hw.own.visited_eq]
    exact List.nodup_cons.mpr ⟨hv, hd⟩
  pause hd hp := by
    obtain ⟨es, -, rfl⟩ := hp
    exact hd
  opens hd ho := by
    obtain rfl := ho
    exact hd
  closes _ hd hc := by
    obtain rfl := hc
    exact hd

theorem scopes_keep {d d₁ d' : Draft} (h : (traversal s).closes d d₁ d') :
    (traversal s).visited d₁ ⊆ (traversal s).visited d' := by
  obtain rfl := h
  exact List.Subset.refl _

/-- A walk enters the control successors of the nodes that it enters. -/
theorem entered_of_walks (hr : s.registry = .builtin)
    (hids : (s.graph.nodes.toList.map (·.id)).Nodup)
    (h : Walks (traversal s) s.toWorkspace d r d') :
    ∀ u ∈ s.graph.nodes.toList, u.id ∉ d.visited.visited → u.id ∈ d'.visited.visited →
      ∀ v ∈ s.controlSuccessors u none, v.id ∈ d'.visited.visited ∨ Omits s d' u v := by
  induction h with
  | stop => exact fun u _ hnew hold => absurd hold hnew
  | pause hp _ ih =>
    obtain ⟨es, -, rfl⟩ := hp
    exact ih
  | seen _ _ ih => exact ih
  | @enter d d₁ d₂ d' w inner _ hn _ hw hi hlast ihi ihr =>
    intro u hu hnew hold v hv
    have begun : d₁.visited.visited = w.id :: d.visited.visited :=
      congrArg VisitSet.visited hw.own.visited_eq
    have kept : d₂.visited.visited ⊆ d'.visited.visited :=
      hlast.visited_subset (traversal_lawful s)
    have logged := (log_prefix_of_walks hlast).subset
    by_cases hmid : u.id ∈ d₂.visited.visited
    · by_cases huw : u.id = w.id
      · obtain rfl : u = w := List.inj_on_of_nodup_map hids hu hn huw
        rcases Workspace.mem_nodes_textRoute hr hv with hin | hout
        · rw [← hw.route] at hin
          exact .inl (kept (hi.nodes_visited (traversal_lawful s) scopes_keep v hin))
        · exact .inr (((hw.omits hout).mono (log_prefix_of_walks hi).subset).mono logged)
      · refine (ihi u hu ?_ hmid v hv).imp (fun h => kept h) fun h => h.mono logged
        rw [begun, List.mem_cons]
        exact not_or.mpr ⟨huw, hnew⟩
    · exact ihr u hu hmid hold v hv
  | @inside d _ d₂ _ d' _ _ ho _ hc hlast ihb ihr =>
    obtain rfl := ho
    obtain rfl := hc
    intro u hu hnew hold v hv
    by_cases hmid : u.id ∈ d₂.visited.visited
    · have kept : d₂.visited.visited ⊆ d'.visited.visited :=
        hlast.visited_subset (traversal_lawful s)
      have logged : d₂.log.toList ⊆ d'.log.toList := by
        refine List.Subset.trans ?_ (log_prefix_of_walks hlast).subset
        simp [closed]
      exact (ihb u hu hnew hmid v hv).imp (fun h => kept h) fun h => h.mono logged
    · exact ihr u hu hmid hold v hv

end

/-! ### The whole pass -/

/-- The built-in generator searches a graph depth first. -/
structure DepthFirst (options : Options) (graph : Graph) : Prop where
  /-- As many levels of nested visits as there are ids are enough: what would be done at a new node
  below them is never done. -/
  ends (stuck : Node → EmitM Unit) (depth : Nat) (h : graph.ids.card ≤ depth) :
    ((((builtin options).setting graph).entryNodes.forM
      (walkOr ((builtin options).setting graph).toWorkspace Generator.enter
        ((builtin options).emit ((builtin options).setting graph)) stuck depth)).run
      ((builtin options).start graph)).2 = (builtin options).draft graph
  nodup : ((builtin options).draft graph).emitted.Nodup
  /-- Every emitted node is an entry node or a control successor of one emitted before it. -/
  sound : Grows ((builtin options).setting graph).toWorkspace
    ((builtin options).draft graph).emitted
  entries : ∀ v ∈ ((builtin options).setting graph).entryNodes,
    v.id ∈ ((builtin options).draft graph).emitted
  closed : ∀ u ∈ graph.nodes.toList, u.id ∈ ((builtin options).draft graph).emitted →
    ∀ v ∈ ((builtin options).setting graph).controlSuccessors u none,
      v.id ∈ ((builtin options).draft graph).emitted ∨
        Omits ((builtin options).setting graph) ((builtin options).draft graph) u v

theorem draft_depthFirst (options : Options) (graph : Graph)
    (hids : (graph.nodes.toList.map (·.id)).Nodup) : DepthFirst options graph := by
  let s := (builtin options).setting graph
  let d := (builtin options).draft graph
  have walk : Walks (traversal s) s.toWorkspace ((builtin options).start graph)
      (.ofNodes s.entryNodes) d :=
    Generator.walks_draft options graph
  have visited : d.visited.visited = d.emitted.reverse := preserves_entered.walks walk rfl
  have entered (id : NodeId) : id ∈ d.visited.visited ↔ id ∈ d.emitted := by
    rw [visited, List.mem_reverse]
  constructor
  case ends =>
    intro stuck depth hdepth
    have performs := forM_walkOr_performs stuck (Generator.governs options s) hdepth
      graph.card_ids_le
    exact congrArg Prod.snd (performs _ (List.nil_subset _) trivial).1
  case nodup =>
    have nodup : d.visited.visited.Nodup := preserves_nodup.walks walk List.nodup_nil
    rwa [visited, List.nodup_reverse] at nodup
  case sound =>
    refine grows_of_walks walk ?_ fun v hv => .inl (by rwa [Route.nodes_ofNodes] at hv)
    intro before id after he
    exact absurd he (by simp [Draft.emitted, Generator.start, nodesOf])
  case entries =>
    intro v hv
    refine (entered _).mp (walk.nodes_visited (traversal_lawful s) scopes_keep v ?_)
    rwa [Route.nodes_ofNodes]
  case closed =>
    intro u hu hold v hv
    rw [← entered]
    exact entered_of_walks rfl hids walk u hu List.not_mem_nil ((entered _).mpr hold) v hv

/-- A loop whose body leads back to the loop. -/
def cycle : Graph :=
  .ofLists
    [{ id := .ofNat 1, kind := Kind.onStart.name }, { id := .ofNat 2, kind := Kind.whileLoop.name },
      { id := .ofNat 3, kind := Kind.log.name }]
    [.between (.ofNat 1) 0 (.ofNat 2) 0, .between (.ofNat 2) 0 (.ofNat 3) 0,
      .between (.ofNat 3) 0 (.ofNat 2) 0]

theorem cycle_depthFirst :
    (cycle.nodes.toList.map (·.id)).Nodup ∧ DepthFirst {} cycle ∧
      ((builtin {}).draft cycle).emitted = [.ofNat 1, .ofNat 2, .ofNat 3] :=
  ⟨by decide, draft_depthFirst {} cycle (by decide), by decide +kernel⟩

end ScriptGraph.Source
