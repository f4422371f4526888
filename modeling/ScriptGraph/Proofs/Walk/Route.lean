import ScriptGraph.Graph.Walk

/-! # Walks as relations

A route is what lies ahead of a walk: nodes to visit, and parts that are walked in a scope of their
own, as a block of generated text or one time round a loop. How a pass works at a node and what it
does in between is its conduct. A walk relates two states of a pass with the route between them.
-/

namespace ScriptGraph

inductive Route where
  | stop
  | visit (node : Node) (rest : Route)
  /-- A part in a scope of its own, and what comes after it. -/
  | inside (body rest : Route)

namespace Route

def append : Route → Route → Route
  | stop, r => r
  | visit node rest, r => visit node (rest.append r)
  | inside body rest, r => inside body (rest.append r)

instance : Append Route := ⟨append⟩

@[simp] theorem stop_append (r : Route) : stop ++ r = r := rfl

@[simp] theorem visit_append (node : Node) (rest r : Route) :
    visit node rest ++ r = visit node (rest ++ r) := rfl

@[simp] theorem inside_append (body rest r : Route) :
    inside body rest ++ r = inside body (rest ++ r) := rfl

@[simp] theorem append_stop (r : Route) : r ++ stop = r := by
  induction r with
  | stop => rfl
  | visit node rest ih => rw [visit_append, ih]
  | inside body rest _ ih => rw [inside_append, ih]

/-- The nodes on a route in their order, those in scopes as well. -/
def nodes : Route → List Node
  | stop => []
  | visit node rest => node :: rest.nodes
  | inside body rest => body.nodes ++ rest.nodes

@[simp] theorem nodes_append (r r' : Route) : (r ++ r').nodes = r.nodes ++ r'.nodes := by
  induction r with
  | stop => rfl
  | visit node rest ih => simp [nodes, ih]
  | inside body rest _ ih => simp [nodes, ih]

def ofNodes : List Node → Route
  | [] => stop
  | node :: rest => visit node (ofNodes rest)

@[simp] theorem nodes_ofNodes (ns : List Node) : (ofNodes ns).nodes = ns := by
  induction ns with
  | nil => rfl
  | cons node ns ih => simp [ofNodes, nodes, ih]

theorem ofNodes_append (ns ns' : List Node) : ofNodes (ns ++ ns') = ofNodes ns ++ ofNodes ns' := by
  induction ns with
  | nil => rfl
  | cons node ns ih => simp [ofNodes, ih]

/-- The same part so many times, each time in a scope of its own. -/
def times (body : Route) : Nat → Route
  | 0 => stop
  | count + 1 => inside body (times body count)

end Route

/-- What several outputs of a node lead to, each part in a scope of its own. -/
def Workspace.scopes (w : Workspace) (node : Node) : (ports : List Nat) → Route
  | [] => .stop
  | port :: ports =>
    .inside (.ofNodes (w.controlSuccessors node (some port))) (w.scopes node ports)

theorem Workspace.nodes_scopes (w : Workspace) (node : Node) (ports : List Nat) :
    (w.scopes node ports).nodes =
      ports.flatMap fun port => w.controlSuccessors node (some port) := by
  induction ports with
  | nil => rfl
  | cons port ports ih => simp [scopes, Route.nodes, ih]

theorem Workspace.scopes_append (w : Workspace) (node : Node) (ports ports' : List Nat) :
    w.scopes node (ports ++ ports') = w.scopes node ports ++ w.scopes node ports' := by
  induction ports with
  | nil => rfl
  | cons port ports ih => simp [scopes, ih]

/-- Where a node leads to once its work is done. -/
def Workspace.flowRoute (w : Workspace) (node : Node) : Flow → Route
  | .proceed => .ofNodes (w.controlSuccessors node none)
  | .follow port => .ofNodes (w.controlSuccessors node (some port))
  | .halt => .stop

variable {σ α β : Type}

/-- How a pass with states of a type behaves. -/
structure Conduct (σ : Type) where
  /-- The nodes that have been entered. -/
  visited : σ → List NodeId
  begin : Node → σ → σ
  /-- The work at a node that has begun, with the route that it leads to. -/
  work : Node → σ → Route → σ → Prop
  /-- What may happen between two nodes. -/
  pause : σ → σ → Prop
  opens : σ → σ → Prop
  /-- The end of a scope: the states before it was opened, before it ends and after. -/
  closes : σ → σ → σ → Prop
  /-- What holds of every state of the pass. -/
  invariant : σ → Prop := fun _ => True

/-- Nothing but beginning at a node enters one, and no scope forgets what was entered before it. -/
structure Conduct.Lawful (c : Conduct σ) : Prop where
  visited_begin (v : Node) (s : σ) : c.visited (c.begin v s) = v.id :: c.visited s
  visited_work {v : Node} {s s' : σ} {r : Route} (h : c.work v s r s') :
    c.visited s' = c.visited s
  visited_pause {s s' : σ} (h : c.pause s s') : c.visited s' = c.visited s
  visited_opens {s s' : σ} (h : c.opens s s') : c.visited s' = c.visited s
  visited_closes {s s₁ s' : σ} (h : c.closes s s₁ s') (hs : c.visited s ⊆ c.visited s₁) :
    c.visited s ⊆ c.visited s'
  invariant_begin {s : σ} (hs : c.invariant s) (v : Node) : c.invariant (c.begin v s)
  invariant_work {v : Node} {s s' : σ} {r : Route} (hs : c.invariant s) (h : c.work v s r s') :
    c.invariant s'
  invariant_pause {s s' : σ} (hs : c.invariant s) (h : c.pause s s') : c.invariant s'
  invariant_opens {s s' : σ} (hs : c.invariant s) (h : c.opens s s') : c.invariant s'
  invariant_closes {s s₁ s' : σ} (hs : c.invariant s₁) (h : c.closes s s₁ s') : c.invariant s'

/-- Nothing that a pass does takes it out of the states with a property. -/
structure Conduct.Preserves (c : Conduct σ) (I : σ → Prop) : Prop where
  enter {v : Node} {s s' : σ} {r : Route} (hs : I s) (hv : v.id ∉ c.visited s)
    (h : c.work v (c.begin v s) r s') : I s'
  pause {s s' : σ} (hs : I s) (h : c.pause s s') : I s'
  opens {s s' : σ} (hs : I s) (h : c.opens s s') : I s'
  closes {s s₁ s' : σ} (hs : I s) (hs₁ : I s₁) (h : c.closes s s₁ s') : I s'

/-- The pass gets from one state to another along a route. -/
inductive Walks (c : Conduct σ) (w : Workspace) : σ → Route → σ → Prop where
  | stop {s : σ} : Walks c w s .stop s
  | pause {s s₁ s' : σ} {r : Route} : c.pause s s₁ → Walks c w s₁ r s' → Walks c w s r s'
  | seen {s s' : σ} {v : Node} {r : Route} : v.id ∈ c.visited s → Walks c w s r s' →
      Walks c w s (.visit v r) s'
  | enter {s s₁ s₂ s' : σ} {v : Node} {inner r : Route} : v ∈ w.graph.nodes.toList →
      v.id ∉ c.visited s → c.work v (c.begin v s) inner s₁ → Walks c w s₁ inner s₂ →
      Walks c w s₂ r s' → Walks c w s (.visit v r) s'
  | inside {s s₁ s₂ s₃ s' : σ} {body r : Route} : c.opens s s₁ → Walks c w s₁ body s₂ →
      c.closes s s₂ s₃ → Walks c w s₃ r s' → Walks c w s (.inside body r) s'

theorem Conduct.Preserves.walks {c : Conduct σ} {w : Workspace} {I : σ → Prop} {s s' : σ}
    {r : Route} (hp : c.Preserves I) (h : Walks c w s r s') (hs : I s) : I s' := by
  induction h with
  | stop => exact hs
  | pause h _ ih => exact ih (hp.pause hs h)
  | seen _ _ ih => exact ih hs
  | enter _ hv hw _ _ ihi ihr => exact ihr (ihi (hp.enter hs hv hw))
  | inside ho _ hc _ ihb ihr => exact ihr (hp.closes hs (ihb (hp.opens hs ho)) hc)

theorem Conduct.Preserves.and {c : Conduct σ} {I J : σ → Prop} (hi : c.Preserves I)
    (hj : c.Preserves J) : c.Preserves fun s => I s ∧ J s where
  enter hs hv h := ⟨hi.enter hs.1 hv h, hj.enter hs.2 hv h⟩
  pause hs h := ⟨hi.pause hs.1 h, hj.pause hs.2 h⟩
  opens hs h := ⟨hi.opens hs.1 h, hj.opens hs.2 h⟩
  closes hs hs₁ h := ⟨hi.closes hs.1 hs₁.1 h, hj.closes hs.2 hs₁.2 h⟩

theorem Conduct.Lawful.preserves_invariant {c : Conduct σ} (hl : c.Lawful) :
    c.Preserves c.invariant where
  enter hs _ h := hl.invariant_work (hl.invariant_begin hs _) h
  pause := hl.invariant_pause
  opens := hl.invariant_opens
  closes _ := hl.invariant_closes

namespace Walks

variable {c : Conduct σ} {w : Workspace} {s s₁ s' : σ} {r r' : Route}

theorem append (h : Walks c w s r s₁) (h' : Walks c w s₁ r' s') : Walks c w s (r ++ r') s' := by
  induction h with
  | stop => exact h'
  | pause hp _ ih => exact .pause hp (ih h')
  | seen hv _ ih => exact .seen hv (ih h')
  | enter hn hv hw hi _ _ ih => exact .enter hn hv hw hi (ih h')
  | inside ho hb hc _ _ ih => exact .inside ho hb hc (ih h')

/-- A walk along two routes is a walk along the one and then along the other. -/
theorem split (h : Walks c w s (r ++ r') s') : ∃ s₁, Walks c w s r s₁ ∧ Walks c w s₁ r' s' := by
  generalize he : r ++ r' = route at h
  induction h generalizing r with
  | stop =>
    cases r with
    | stop =>
      rw [Route.stop_append] at he
      subst he
      exact ⟨_, .stop, .stop⟩
    | _ => cases he
  | pause hp _ ih =>
    obtain ⟨s₁, first, last⟩ := ih he
    exact ⟨s₁, .pause hp first, last⟩
  | seen hv h ih =>
    cases r with
    | stop =>
      rw [Route.stop_append] at he
      subst he
      exact ⟨_, .stop, .seen hv h⟩
    | visit node rest =>
      obtain ⟨rfl, hrest⟩ := Route.visit.inj he
      obtain ⟨s₁, first, last⟩ := ih hrest
      exact ⟨s₁, .seen hv first, last⟩
    | inside => cases he
  | enter hn hv hw hi h _ ih =>
    cases r with
    | stop =>
      rw [Route.stop_append] at he
      subst he
      exact ⟨_, .stop, .enter hn hv hw hi h⟩
    | visit node rest =>
      obtain ⟨rfl, hrest⟩ := Route.visit.inj he
      obtain ⟨s₁, first, last⟩ := ih hrest
      exact ⟨s₁, .enter hn hv hw hi first, last⟩
    | inside => cases he
  | inside ho hb hc h _ ih =>
    cases r with
    | stop =>
      rw [Route.stop_append] at he
      subst he
      exact ⟨_, .stop, .inside ho hb hc h⟩
    | visit => cases he
    | inside body rest =>
      obtain ⟨rfl, hrest⟩ := Route.inside.inj he
      obtain ⟨s₁, first, last⟩ := ih hrest
      exact ⟨s₁, .inside ho hb hc first, last⟩

/-- What a walk does at the first node of its route, after a pause. -/
theorem visit_cases {v : Node} (h : Walks c w s (.visit v r) s') :
    ∃ s₀, Walks c w s .stop s₀ ∧ ((v.id ∈ c.visited s₀ ∧ Walks c w s₀ r s') ∨
      ∃ s₁ s₂ inner, v.id ∉ c.visited s₀ ∧ c.work v (c.begin v s₀) inner s₁ ∧
        Walks c w s₁ inner s₂ ∧ Walks c w s₂ r s') := by
  generalize he : Route.visit v r = route at h
  induction h with
  | stop => cases he
  | pause hp _ ih =>
    obtain ⟨s₀, idle, later⟩ := ih he
    exact ⟨s₀, .pause hp idle, later⟩
  | seen hv h =>
    obtain ⟨rfl, rfl⟩ := Route.visit.inj he
    exact ⟨_, .stop, .inl ⟨hv, h⟩⟩
  | enter _ hv hw hi h =>
    obtain ⟨rfl, rfl⟩ := Route.visit.inj he
    exact ⟨_, .stop, .inr ⟨_, _, _, hv, hw, hi, h⟩⟩
  | inside => cases he

theorem visited_subset (hl : c.Lawful) (h : Walks c w s r s') : c.visited s ⊆ c.visited s' := by
  induction h with
  | stop => exact List.Subset.refl _
  | pause hp _ ih => exact hl.visited_pause hp ▸ ih
  | seen _ _ ih => exact ih
  | @enter s s₁ _ _ v _ _ _ _ hw _ _ ihi ihr =>
    have begun : c.visited s ⊆ c.visited s₁ := by
      rw [hl.visited_work hw, hl.visited_begin]
      exact List.subset_cons_self _ _
    exact List.Subset.trans begun (List.Subset.trans ihi ihr)
  | inside ho _ hc _ ihb ihr =>
    have body := hl.visited_closes hc (hl.visited_opens ho ▸ ihb)
    exact List.Subset.trans body ihr

theorem invariant (hl : c.Lawful) (h : Walks c w s r s') (hs : c.invariant s) :
    c.invariant s' :=
  hl.preserves_invariant.walks h hs

/-- Where a walk has been, every node on its route has been entered, if scopes forget nothing. -/
theorem nodes_visited (hl : c.Lawful)
    (hc : ∀ {s s₁ s' : σ}, c.closes s s₁ s' → c.visited s₁ ⊆ c.visited s')
    (h : Walks c w s r s') : ∀ v ∈ r.nodes, v.id ∈ c.visited s' := by
  induction h with
  | stop => simp [Route.nodes]
  | pause _ _ ih => exact ih
  | seen hv h ih =>
    intro u hu
    rcases List.mem_cons.mp hu with rfl | hu
    · exact h.visited_subset hl hv
    · exact ih u hu
  | @enter s _ _ _ v _ _ _ _ hw hi hr _ ihr =>
    intro u hu
    rcases List.mem_cons.mp hu with rfl | hu
    · apply hr.visited_subset hl
      apply hi.visited_subset hl
      rw [hl.visited_work hw, hl.visited_begin]
      exact List.mem_cons_self
    · exact ihr u hu
  | inside _ _ hcl hr ihb ihr =>
    intro u hu
    rcases List.mem_append.mp hu with hu | hu
    · exact hr.visited_subset hl (hc hcl (ihb u hu))
    · exact ihr u hu

end Walks

/-- Once certain nodes have been entered, two programs do the same, and it is a walk along a
route. -/
def Performs (c : Conduct σ) (w : Workspace) (entered : List NodeId) (x y : StateM σ α)
    (r : Route) : Prop :=
  ∀ s, entered ⊆ c.visited s → c.invariant s → x.run s = y.run s ∧ Walks c w s r (x.run s).2

namespace Performs

variable {c : Conduct σ} {w : Workspace} {entered : List NodeId} {x y : StateM σ α}
  {f g : α → StateM σ β} {r r' : Route}

theorem pure (a : α) : Performs c w entered (Pure.pure a) (Pure.pure a) .stop :=
  fun _ _ _ => ⟨rfl, .stop⟩

theorem bind (hl : c.Lawful) (hx : Performs c w entered x y r)
    (hf : ∀ a, Performs c w entered (f a) (g a) r') :
    Performs c w entered (x >>= f) (y >>= g) (r ++ r') := by
  intro s hs hi
  obtain ⟨he, hw⟩ := hx s hs hi
  have hs' := List.Subset.trans hs (hw.visited_subset hl)
  obtain ⟨he', hw'⟩ := hf (x.run s).1 (x.run s).2 hs' (hw.invariant hl hi)
  constructor
  · change (f (x.run s).1).run (x.run s).2 = (g (y.run s).1).run (y.run s).2
    rw [← he, he']
  · exact hw.append hw'

/-- Leads with what belongs between nodes. -/
theorem pause (h : ∀ s, c.pause s (x.run s).2) : Performs c w entered x x .stop :=
  fun s _ _ => ⟨rfl, .pause (h s) .stop⟩

theorem forM {visit visit' : Node → StateM σ Unit} {ns : List Node} (hl : c.Lawful)
    (h : ∀ v ∈ ns, Performs c w entered (visit v) (visit' v) (.visit v .stop)) :
    Performs c w entered (ns.forM visit) (ns.forM visit') (.ofNodes ns) := by
  induction ns with
  | nil => exact .pure ()
  | cons v ns ih =>
    change Performs c w entered (visit v >>= fun _ => ns.forM visit)
      (visit' v >>= fun _ => ns.forM visit') (.visit v .stop ++ .ofNodes ns)
    exact .bind hl (h v List.mem_cons_self) fun _ => ih fun u hu => h u (List.mem_cons_of_mem v hu)

end Performs

end ScriptGraph
