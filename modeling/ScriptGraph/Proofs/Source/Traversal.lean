import ScriptGraph.Proofs.Source.Leaves
import ScriptGraph.Proofs.Source.Routes
import ScriptGraph.Proofs.Walk.Depth

/-! # The walk of the generator

The conduct of a generation pass, and that the built-in emitters keep to it: each does operations of
its node first, and then walks along the route of the node.
-/

namespace ScriptGraph.Source

/-- The state in which the emission of a node has begun. -/
def began (v : Node) (d : Draft) : Draft :=
  { d.logged [.node v.id] with visited := ⟨v.id :: d.visited.visited⟩ }

/-- What the emission of a node does before it comes to the first block. -/
structure Works (s : Setting) (v : Node) (d : Draft) (r : Route) (d' : Draft) : Prop where
  route : r = s.textRoute d.outputs.contains v
  own : Own s v d d'
  records : ∀ port ∈ s.results d.outputs.contains v, d'.outputs.contains ⟨v.id, port⟩
  reads : ∀ kind ∈ Kind.ofName? v.kind, ∀ index ∈ kind.decisive,
    .read ⟨v.id, index⟩ (s.given d.outputs v index) ∈ d'.log.toList

/-- The conduct of a generation pass. -/
def traversal (s : Setting) : Conduct Draft where
  visited d := d.visited.visited
  begin := began
  work := Works s
  pause d d' := ∃ es, Prose [] es ∧ d' = d.logged es
  opens d d' := d' = opened d
  closes _ d₁ d' := d' = closed d₁

namespace Own

variable {s : Setting} {v : Node} {d d' : Draft}

theorem visited_eq (h : Own s v d d') : d'.visited = d.visited := by
  induction h with
  | refl => rfl
  | tail _ h ih => rw [h.visited_eq, ih]

theorem log_eq (h : Own s v d d') : ∃ es, d'.log.toList = d.log.toList ++ es := by
  induction h with
  | refl => exact ⟨[], by simp⟩
  | tail _ h ih =>
    obtain ⟨es, ih⟩ := ih
    obtain ⟨es', he, -⟩ := h.log_eq
    exact ⟨es ++ es', by rw [he, ih, List.append_assoc]⟩

end Own

theorem traversal_lawful (s : Setting) : (traversal s).Lawful where
  visited_begin _ _ := rfl
  visited_work h := congrArg VisitSet.visited h.own.visited_eq
  visited_pause h := by
    obtain ⟨es, -, rfl⟩ := h
    rfl
  visited_opens h := by
    obtain rfl := h
    rfl
  visited_closes h hs := by
    obtain rfl := h
    exact hs
  invariant_begin _ _ := trivial
  invariant_work _ _ := trivial
  invariant_pause _ _ := trivial
  invariant_opens _ _ := trivial
  invariant_closes _ _ := trivial

/-! ### Programs as walks -/

section

variable {s : Setting} {v : Node} {entered : List NodeId}

/-- Two programs do the same as each other and walk. -/
abbrev Follows {α : Type} (s : Setting) (entered : List NodeId) (x y : EmitM α) (r : Route) :
    Prop :=
  Performs (traversal s) s.toWorkspace entered x y r

theorem Prints.follows {x : EmitM Unit} (h : Prints [] x) : Follows s entered x x .stop := by
  obtain ⟨es, he, hx⟩ := h
  refine .pause fun d => ?_
  rw [hx]
  exact ⟨es, he, rfl⟩

theorem Follows.andThen {α : Type} {x x' : EmitM Unit} {y y' : EmitM α} {r r' : Route}
    (hx : Follows s entered x x' r) (hy : Follows s entered y y' r') :
    Follows s entered (x >>= fun _ => y) (x' >>= fun _ => y') (r ++ r') :=
  Performs.bind (traversal_lawful s) hx fun _ => hy

theorem Follows.block {x y : EmitM Unit} {r : Route} (h : Follows s entered x y r) :
    Follows s entered (Emit.block x) (Emit.block y) (.inside r .stop) := by
  intro d hd _
  obtain ⟨he, hw⟩ := h (opened d) hd trivial
  rw [block_run, block_run, he]
  rw [he] at hw
  exact ⟨rfl, .inside rfl hw rfl .stop⟩

variable {visit visit' : Node → EmitM Unit}
  (h : ∀ u ∈ s.graph.nodes.toList, Follows s entered (visit u) (visit' u) (.visit u .stop))
include h

theorem follows_branch (port : Nat) :
    Follows s entered (s.branch visit v port) (s.branch visit' v port)
      (.ofNodes (s.controlSuccessors v (some port))) :=
  .forM (traversal_lawful s) fun u hu => h u (s.mem_nodes_of_mem_controlSuccessors hu)

theorem follows_twoWay (condition : String) :
    Follows s entered (Emit.twoWay s visit v condition) (Emit.twoWay s visit' v condition)
      (s.scopes v [0, 1]) :=
  (Prints.line _).follows.andThen <| (follows_branch h 0).block.andThen <|
    (Prints.line _).follows.andThen <| (follows_branch h 1).block.andThen <|
      (Prints.line _).follows.andThen (.pure _)

theorem follows_loop (header : String) :
    Follows s entered (Emit.loop s visit v header) (Emit.loop s visit' v header)
      (s.scopes v [0]) :=
  (Prints.line _).follows.andThen <| (follows_branch h 0).block.andThen <|
    (Prints.line _).follows.andThen <| .pure _

theorem follows_caseBlock (label : String) (port : Nat) :
    Follows s entered (Emit.caseBlock s visit v label port) (Emit.caseBlock s visit' v label port)
      (s.scopes v [port]) := by
  have body := (follows_branch h (v := v) port).andThen (Prints.line "break").follows
  rw [Route.append_stop] at body
  exact (Prints.line _).follows.andThen body.block

theorem follows_caseBlocks (ignoreCase : Bool) (index : Nat) (cases : List SwitchCase) :
    Follows s entered (Emit.caseBlocks s visit v ignoreCase index cases)
      (Emit.caseBlocks s visit' v ignoreCase index cases)
      (s.scopes v (List.range' (index + 1) cases.length)) := by
  induction cases generalizing index with
  | nil => exact .pure _
  | cons c cases ih => exact (follows_caseBlock h _ (index + 1)).andThen (ih (index + 1))

theorem follows_switchBlocks (ignoreCase : Bool) :
    Follows s entered
      (Emit.caseBlocks s visit v ignoreCase 0 (s.cases v) >>= fun _ =>
        Emit.caseBlock s visit v "default:" 0)
      (Emit.caseBlocks s visit' v ignoreCase 0 (s.cases v) >>= fun _ =>
        Emit.caseBlock s visit' v "default:" 0)
      (s.scopes v (s.casePorts v)) := by
  rw [Workspace.casePorts, Workspace.scopes_append]
  exact (follows_caseBlocks h ignoreCase 0 _).andThen (follows_caseBlock h _ 0)

end

/-! ### Emission as a walk -/

section

variable {s : Setting} {v : Node} {d : Draft} {α : Type}

theorem takes_conditionOf {outputs : Table PortRef String} {indices : List Nat} :
    Takes (Operation s v) (HasRead s v outputs indices) (Emit.conditionOf s v)
      fun _ => HasRead s v outputs indices := by
  refine (takes_read 1).bind fun wired => .pure fun d hd => ⟨hd.2.1, fun index hi => ?_⟩
  exact hd.2.2 index (List.mem_append_left _ hi)

/-- Two ways to emit a node, which may depend on how others are visited, go on alike from where some
of the node has been written, and as its route says. -/
def Conforms (s : Setting) (v : Node) (d : Draft) (P : Draft → Prop) (x y : EmitM Flow) : Prop :=
  ∀ d', Own s v d d' → P d' →
    x.run d' = y.run d' ∧ ∃ inner d₁, Works s v d (inner ++ s.flowRoute v (x.run d').1) d₁ ∧
      Walks (traversal s) s.toWorkspace d₁ inner (x.run d').2

namespace Conforms

variable {P : Draft → Prop} {x y : EmitM Flow}

theorem bind {pre : EmitM α} {f g : α → EmitM Flow} {Q : α → Draft → Prop}
    (hpre : Takes (Operation s v) P pre Q) (hf : ∀ a, Conforms s v d (Q a) (f a) (g a)) :
    Conforms s v d P (pre >>= f) (pre >>= g) := by
  intro d' own hp
  obtain ⟨steps, hq⟩ := hpre d' hp
  exact hf _ _ (own.trans steps) hq

theorem assuming {p : Prop} (h : p → Conforms s v d P x y) :
    Conforms s v d (fun d => p ∧ P d) x y :=
  fun d' own hp => h hp.1 d' own hp.2

theorem run (h : Conforms s v d (HasRead s v d.outputs []) x y) :
    x.run d = y.run d ∧ ∃ inner d₁, Works s v d (inner ++ s.flowRoute v (x.run d).1) d₁ ∧
      Walks (traversal s) s.toWorkspace d₁ inner (x.run d).2 :=
  h d .refl ⟨rfl, fun _ hi => absurd hi List.not_mem_nil⟩

/-- Prose before a node belongs to its work. -/
theorem before {c : EmitM Unit} {outputs : Table PortRef String} (hc : Prints [] c)
    (h : Conforms s v d (HasRead s v outputs []) x y) :
    Conforms s v d (HasRead s v outputs []) (c >>= fun _ => x) (c >>= fun _ => y) := by
  refine .bind (hc.takes.conseq (fun _ hd => hd.1) ?_) fun _ => h
  exact fun _ _ hd => ⟨hd, fun _ hi => absurd hi List.not_mem_nil⟩

/-- Prose behind a node belongs to its walk. -/
theorem after {c : EmitM Unit} (hc : Prints [] c) (h : Conforms s v d P x y) :
    Conforms s v d P (x >>= fun flow => c >>= fun _ => pure flow)
      (y >>= fun flow => c >>= fun _ => pure flow) := by
  intro d' own hp
  obtain ⟨he, inner, d₁, work, walk⟩ := h d' own hp
  obtain ⟨es, hes, hc⟩ := hc
  have run (x : EmitM Flow) : (x >>= fun flow => c >>= fun _ => pure flow).run d' =
      ((x.run d').1, (x.run d').2.logged es) := by
    rw [StateT.run_bind]
    change (c >>= fun _ => pure (x.run d').1).run (x.run d').2 = _
    rw [StateT.run_bind, hc]
    rfl
  rw [run, run, ← he]
  refine ⟨rfl, inner, d₁, work, ?_⟩
  rw [← Route.append_stop inner]
  exact walk.append (.pause ⟨es, hes, rfl⟩ .stop)

/-- Nothing is left to do but to walk. -/
theorem walk {kind : Kind} {inner : Route} (flow : Flow)
    (hk : Kind.ofName? v.kind = some kind) (hb : kind.branches)
    (hr : s.textRoute d.outputs.contains v = inner ++ s.flowRoute v flow)
    (hw : Follows s d.visited.visited x y inner) (hx : ∀ d', (x.run d').1 = flow) :
    Conforms s v d (HasRead s v d.outputs kind.decisive) x y := by
  intro d' own ⟨_, reads⟩
  have hsub : d.visited.visited ⊆ d'.visited.visited := by
    rw [own.visited_eq]
    exact List.Subset.refl _
  obtain ⟨he, hwalk⟩ := hw d' hsub trivial
  refine ⟨he, inner, d', ⟨by rw [hx, hr], own, ?_, ?_⟩, hwalk⟩
  · intro port hp
    obtain ⟨hc, -⟩ := (Workspace.mem_results hk (by rintro rfl; cases hb)).mp hp
    cases kind <;> simp [Kind.branches, Workspace.computes] at hb hc
  · rintro kind' hk'
    obtain rfl : kind = kind' := Option.some.inj (hk.symm.trans hk')
    exact reads

end Conforms

section

variable {visit visit' : Node → EmitM Unit}

theorem conforms_leaf {kind : Kind} (hk : Kind.ofName? v.kind = some kind)
    (hb : kind.branches = false) :
    Conforms s v d (HasRead s v d.outputs []) (Emit.builtin kind s visit v)
      (Emit.builtin kind s visit' v) := by
  intro d' own ⟨hd, _⟩
  have same : Emit.builtin kind s visit v = Emit.builtin kind s visit' v := by
    cases kind with
    | ifThen | condition | switch | whileLoop | forLoop => cases hb
    | _ => rfl
  obtain ⟨steps, hflow, records⟩ := takes_leaf visit hk hb d' hd
  refine ⟨by rw [same], .stop, _, ⟨?_, own.trans steps, records, ?_⟩, .stop⟩
  · rw [hflow, Workspace.textRoute, hk]
    cases kind with
    | ifThen | condition | switch | whileLoop | forLoop => cases hb
    | _ => rfl
  · rintro kind' hk'
    obtain rfl : kind = kind' := Option.some.inj (hk.symm.trans hk')
    cases kind with
    | ifThen | condition | switch | whileLoop | forLoop => cases hb
    | _ => exact fun _ hi => absurd hi List.not_mem_nil

variable (h : ∀ u ∈ s.graph.nodes.toList,
  Follows s d.visited.visited (visit u) (visit' u) (.visit u .stop))

theorem conforms_stop {kind : Kind} (hk : Kind.ofName? v.kind = some kind) (hb : kind.branches)
    {flow : Flow} (hr : s.textRoute d.outputs.contains v = s.flowRoute v flow) (message : String) :
    Conforms s v d (HasRead s v d.outputs kind.decisive)
      (warn message >>= fun _ => pure flow) (warn message >>= fun _ => pure flow) :=
  .walk flow hk hb hr ((Prints.warn message).follows.andThen (.pure flow)) fun _ => rfl

include h

theorem conforms_ifThen (hk : Kind.ofName? v.kind = some .ifThen) :
    Conforms s v d (HasRead s v d.outputs []) (Emit.ifThen s visit v)
      (Emit.ifThen s visit' v) := by
  unfold Emit.ifThen
  refine .bind (takes_read 1) fun a => .assuming fun ha => ?_
  refine .bind (takes_read 2) fun b => .assuming fun hb => ?_
  have route : s.textRoute d.outputs.contains v =
      if a.isSome && b.isSome then s.scopes v [0, 1] else .stop := by
    rw [Workspace.textRoute, hk, ha, hb, Setting.isSome_given, Setting.isSome_given]
  cases a with
  | none => exact conforms_stop hk rfl route _
  | some a =>
    cases b with
    | none => exact conforms_stop hk rfl route _
    | some b =>
      refine Conforms.walk .halt hk rfl ?_ (follows_twoWay h _) fun _ => rfl
      rw [route]
      rfl

theorem conforms_condition (hk : Kind.ofName? v.kind = some .condition) :
    Conforms s v d (HasRead s v d.outputs []) (Emit.condition s visit v)
      (Emit.condition s visit' v) := by
  refine .bind takes_conditionOf fun condition => ?_
  refine Conforms.walk .halt hk rfl ?_ (follows_twoWay h _) fun _ => rfl
  rw [Workspace.textRoute, hk]
  rfl

theorem conforms_switch (hk : Kind.ofName? v.kind = some .switch) :
    Conforms s v d (HasRead s v d.outputs []) (Emit.switch s visit v)
      (Emit.switch s visit' v) := by
  refine .bind (takes_read 1) fun value => .assuming fun hv => ?_
  have route : s.textRoute d.outputs.contains v =
      if value.isSome then .inside (s.scopes v (s.casePorts v)) .stop else .stop := by
    rw [Workspace.textRoute, hk, hv, Setting.isSome_given]
  cases value with
  | none => exact conforms_stop hk rfl route _
  | some value =>
    exact Conforms.walk .halt hk rfl route
      ((Prints.line _).follows.andThen <| (follows_switchBlocks h _).block.andThen <|
        (Prints.line _).follows.andThen (.pure _)) fun _ => rfl

theorem conforms_whileLoop (hk : Kind.ofName? v.kind = some .whileLoop) :
    Conforms s v d (HasRead s v d.outputs []) (Emit.whileLoop s visit v)
      (Emit.whileLoop s visit' v) := by
  refine .bind takes_conditionOf fun condition => ?_
  refine Conforms.walk (.follow 1) hk rfl ?_ (follows_loop h _) fun _ => rfl
  rw [Workspace.textRoute, hk]
  rfl

theorem conforms_forLoop (hk : Kind.ofName? v.kind = some .forLoop) :
    Conforms s v d (HasRead s v d.outputs []) (Emit.forLoop s visit v)
      (Emit.forLoop s visit' v) := by
  have route : s.textRoute d.outputs.contains v =
      (if s.loopStep v == 0 then .stop else s.scopes v [0]) ++ s.flowRoute v (.follow 1) := by
    rw [Workspace.textRoute, hk]
    rfl
  unfold Emit.forLoop
  change Conforms _ _ _ _ (if s.loopStep v == 0 then _ else _) (if s.loopStep v == 0 then _ else _)
  split
  next hz => exact conforms_stop hk rfl (by rw [route, if_pos hz]; rfl) _
  next hz =>
    have fresh : Takes (Operation s v) (HasRead s v d.outputs []) (freshName "i")
        fun _ => HasRead s v d.outputs [] :=
      .single fun d' hd => ⟨.fresh d' (by decide), hd.1, fun _ hi => absurd hi List.not_mem_nil⟩
    refine .bind fresh fun index => ?_
    refine Conforms.walk (.follow 1) hk rfl ?_ (follows_loop h _) fun _ => rfl
    rw [route, if_neg hz]

theorem conforms_builtin {kind : Kind} (hk : Kind.ofName? v.kind = some kind) :
    Conforms s v d (HasRead s v d.outputs []) (Emit.builtin kind s visit v)
      (Emit.builtin kind s visit' v) := by
  cases hb : kind.branches with
  | false => exact conforms_leaf hk hb
  | true =>
    cases kind with
    | ifThen => exact conforms_ifThen h hk
    | condition => exact conforms_condition h hk
    | switch => exact conforms_switch h hk
    | whileLoop => exact conforms_whileLoop h hk
    | forLoop => exact conforms_forLoop h hk
    | _ => cases hb

end

end

/-! ### The built-in generator -/

/-- The built-in generator with some options. -/
abbrev builtin (options : Options) : Generator := { options }

/-- The built-in emitters with options and with kinds of any sort. -/
abbrev withRegistry (options : Options) (registry : Registry) : Generator := { options, registry }

namespace Generator

variable {options : Options} {graph : Graph}

theorem emitters_builtin (kind : String) :
    (builtin options).emitters.get? kind = (Kind.ofName? kind).map Emit.builtin :=
  Table.get?_ofKinds Emit.builtin kind

/-- Enters a node in a state. -/
def mark (id : NodeId) (d : Draft) : Draft :=
  { d with visited := ⟨id :: d.visited.visited⟩ }

/-- A node between its comments. -/
def content (s : Setting) (visit : Node → EmitM Unit) (v : Node) : EmitM Flow :=
  match Kind.ofName? v.kind with
  | some kind => Emit.builtin kind s visit v
  | none => line s!"// Unsupported node kind: {v.kind}" >>= fun _ => pure .proceed

/-- What happens at a node after it has been announced. -/
def emission (options : Options) (s : Setting) (visit : Node → EmitM Unit) (v : Node) :
    EmitM Flow :=
  if options.emitComments then
    write (.processing v.kind) >>= fun _ => content s visit v >>= fun flow =>
      (write (.finished v.kind) >>= fun _ => log .blank) >>= fun _ => pure flow
  else content s visit v

theorem emit_eq (s : Setting) (visit : Node → EmitM Unit) (v : Node) :
    (builtin options).emit s visit v =
      log (.node v.id) >>= fun _ => emission options s visit v := by
  unfold emit emission content
  rw [emitters_builtin]
  cases options.emitComments <;> cases Kind.ofName? v.kind <;> simp

theorem emit_run (s : Setting) (visit : Node → EmitM Unit) (v : Node) (d : Draft) :
    ((builtin options).emit s visit v).run (mark v.id d) =
      (emission options s visit v).run (began v d) := by
  rw [emit_eq, StateT.run_bind, log_run]
  rfl

theorem conforms_content {s : Setting} {v : Node} {d : Draft} {visit visit' : Node → EmitM Unit}
    (h : ∀ u ∈ s.graph.nodes.toList,
      Follows s d.visited.visited (visit u) (visit' u) (.visit u .stop)) :
    Conforms s v d (HasRead s v d.outputs []) (content s visit v) (content s visit' v) := by
  unfold content
  cases hk : Kind.ofName? v.kind with
  | some kind => exact conforms_builtin h hk
  | none =>
    intro d' own ⟨_, _⟩
    have comment : Prints [] (line s!"// Unsupported node kind: {v.kind}") := .line _
    obtain ⟨es, he, hx⟩ := comment
    refine ⟨rfl, .stop, d', ⟨?_, own, ?_, ?_⟩, ?_⟩
    · rw [Workspace.textRoute, hk]
      rfl
    · simp [Workspace.results_of_unknown hk]
    · simp [hk]
    · rw [StateT.run_bind, hx]
      exact .pause ⟨es, he, rfl⟩ .stop

theorem enter_run (id : NodeId) (d : Draft) :
    (enter id).run d = if id ∈ d.visited.visited then (false, d) else (true, mark id d) := by
  change ((d.visited.enter id).1, { d with visited := (d.visited.enter id).2 }) = _
  by_cases h : id ∈ d.visited.visited <;> simp [VisitSet.enter, VisitSet.contains, h, mark]

theorem conforms_emission {s : Setting} {v : Node} {d : Draft} {visit visit' : Node → EmitM Unit}
    (h : ∀ u ∈ s.graph.nodes.toList,
      Follows s d.visited.visited (visit u) (visit' u) (.visit u .stop)) :
    Conforms s v d (HasRead s v d.outputs []) (emission options s visit v)
      (emission options s visit' v) := by
  have comment {st : Statement} (hd : st.declared = []) (ha : st.assigned = []) :
      Prints [] (write st) :=
    .write hd (ha ▸ List.Subset.refl _)
  unfold emission
  split
  · refine ((conforms_content h).after ?_).before (comment rfl rfl)
    exact (comment rfl rfl).andThen .blankLine
  · exact conforms_content h

/-- The generator works as its conduct says. -/
theorem governs (options : Options) (s : Setting) :
    (traversal s).Governs s.toWorkspace enter mark ((builtin options).emit s) where
  lawful := traversal_lawful s
  enter_seen h := (enter_run _ _).trans (if_pos h)
  enter_new h := (enter_run _ _).trans (if_neg h)
  act {visit visit' v d} _ hv _ h := by
    rw [emit_run, emit_run]
    exact (conforms_emission (d := began v d) h).run

/-- The state of a pass is reached by a walk from its start over all entry nodes. -/
theorem walks_withRegistry (options : Options) (registry : Registry) (graph : Graph) :
    Walks (traversal ((withRegistry options registry).setting graph))
      ((withRegistry options registry).setting graph).toWorkspace
      ((withRegistry options registry).start graph)
      (.ofNodes ((withRegistry options registry).setting graph).entryNodes)
      ((withRegistry options registry).draft graph) := by
  have h := forM_walkOr_performs (fun _ => pure ()) (governs options
    ((withRegistry options registry).setting graph)) le_rfl graph.card_ids_le
  have start := h ((withRegistry options registry).start graph) (List.nil_subset _) trivial
  rw [start.1] at start
  exact start.2

theorem walks_draft (options : Options) (graph : Graph) :
    Walks (traversal ((builtin options).setting graph))
      ((builtin options).setting graph).toWorkspace ((builtin options).start graph)
      (.ofNodes ((builtin options).setting graph).entryNodes)
      ((builtin options).draft graph) :=
  walks_withRegistry options .builtin graph

end Generator

end ScriptGraph.Source
