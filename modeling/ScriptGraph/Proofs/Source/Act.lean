import ScriptGraph.Proofs.Source.Forest
import ScriptGraph.Proofs.Source.Names
import ScriptGraph.Proofs.Source.Replay
import ScriptGraph.Proofs.Source.Scope

/-! # Generation as a sequence of acts

Whichever way its walk goes, a pass does one small thing after the other: it begins a node, opens or
ends a block, writes lines, reads an input, declares a variable. What each of these acts keeps true
is true at the end of every pass.
-/

namespace ScriptGraph

namespace Source

variable {s : Setting} {v : Node} {d d' : Draft} {r : Route}

/-- One thing that a pass does. -/
inductive Act (s : Setting) : Draft → Draft → Prop where
  | begins (d : Draft) (v : Node) : Act s d (began v d)
  | opens (d : Draft) : Act s d (opened d)
  | closes {d : Draft} : openBlocks d.log.toList ≠ [] → Act s d (closed d)
  | prose {d : Draft} {names : List String} {es : List Event} : Prose names es →
      Changeable names d → Act s d (d.logged es)
  | fresh (d : Draft) {base : String} : base ≠ "" → Act s d ((freshName base).run d).2
  | bind {d : Draft} {st : Statement} : TakenLast st.declared d → st.assigned = [] →
      Act s d (d.logged [.write st])
  | declare {d : Draft} {v : Node} (assigned : Option String) : v ∈ s.graph.nodes.toList →
      v.kind = Kind.var.name → s.variableName v ≠ "" →
      d.names.isDeclared (s.variableName v) = false → Act s d (s.declared v assigned d)
  /-- If there is a variable behind the input, it has been declared. -/
  | read {d : Draft} {v : Node} (index : Nat) : s.Reachable v →
      s.undeclared? d.names v index = none →
      Act s d (d.logged [.read ⟨v.id, index⟩ (s.resolveInput (s.outputSource d) v index)])
  | assign {d : Draft} {v : Node} {value : String} : s.Reachable v → v.kind = Kind.var.name →
      s.variableName v ≠ "" → d.names.isDeclared (s.variableName v) = true →
      value ≠ s.variableName v → [.read ⟨v.id, 1⟩ (some value)] <:+ d.log.toList →
      Act s d (d.logged [.write (.assign (s.variableName v) value)])
  | record {d : Draft} {v : Node} (port : Nat) (expression : String) : s.Reachable v → Due v d →
      s.Outlet v port → Act s d ((record v port expression).run d).2

/-- What a pass does in the course of time. -/
abbrev Acts (s : Setting) : Draft → Draft → Prop :=
  Relation.ReflTransGen (Act s)

/-! ### Passes as sequences of acts -/

theorem Setting.undeclared?_eq_some_iff {names : Names} {index : Nat} {producer : Node} :
    s.undeclared? names v index = some producer ↔
      (∃ output, s.producer? v index = some (producer, output)) ∧ producer.kind = Kind.var.name ∧
        s.variableName producer ≠ "" ∧ names.isDeclared (s.variableName producer) = false := by
  unfold undeclared?
  cases hp : s.producer? v index with
  | none => simp
  | some source =>
    obtain ⟨producer', output⟩ := source
    simp only [Option.ite_none_right_eq_some, Option.some.injEq, Prod.mk.injEq, exists_and_left]
    constructor
    · rintro ⟨h, rfl⟩
      exact ⟨⟨rfl, _, rfl⟩, h⟩
    · rintro ⟨⟨rfl, -⟩, h⟩
      exact ⟨h, rfl⟩

theorem Setting.isDeclared_declared (s : Setting) (v : Node) (assigned : Option String)
    (d : Draft) (name : String) : (s.declared v assigned d).names.isDeclared name =
      (decide (name = s.variableName v) || d.names.isDeclared name) := by
  simp only [declared, Names.isDeclared, Names.declare, Table.contains, Table.get?_insert]
  by_cases h : name = s.variableName v <;> simp [h]

theorem acts_withProducer (s : Setting) (v : Node) (index : Nat) (d : Draft) :
    Acts s d (s.withProducer v index d) ∧
      s.undeclared? (s.withProducer v index d).names v index = none := by
  unfold Setting.withProducer
  cases hu : s.undeclared? d.names v index with
  | none => exact ⟨.refl, hu⟩
  | some producer =>
    obtain ⟨⟨output, hp⟩, hk, hn, hd⟩ := Setting.undeclared?_eq_some_iff.mp hu
    refine ⟨.single (.declare none (s.mem_nodes_of_producer? hp) hk hn hd), ?_⟩
    rw [Option.eq_none_iff_forall_not_mem]
    intro producer' hu'
    obtain ⟨⟨output', hp'⟩, -, -, hd'⟩ := Setting.undeclared?_eq_some_iff.mp hu'
    obtain ⟨rfl, -⟩ : producer' = producer ∧ output' = output := by simpa [hp] using hp'.symm
    simp [Setting.isDeclared_declared] at hd'

theorem Operation.acts (h : Operation s v d d') (hv : s.Reachable v) : Acts s d d' := by
  cases h with
  | prose hp hc => exact .single (.prose hp hc)
  | read index =>
    obtain ⟨acts, settled⟩ := acts_withProducer s v index d
    have same : s.outputSource (s.withProducer v index d) = s.outputSource d := by
      simp only [Setting.outputSource, Setting.outputs_withProducer]
    rw [Setting.input_run, ← same]
    exact acts.tail (.read index hv settled)
  | fresh hb => exact .single (.fresh d hb)
  | bind hd ha => exact .single (.bind hd ha)
  | declare assigned hk hn hd =>
    obtain ⟨rfl, hn⟩ := Props.nonEmpty?_eq_some_iff.mp hn
    rw [Setting.declareVariable_run]
    exact .single (.declare assigned (s.mem_nodes_of_reachable hv) hk hn hd)
  | assign hk hn hd hne hr =>
    obtain ⟨rfl, hn⟩ := Props.nonEmpty?_eq_some_iff.mp hn
    exact .single (.assign hv hk hn hd hne hr)
  | record port expression due hp => exact .single (.record port expression hv due hp)

theorem Own.acts (h : Own s v d d') (hv : s.Reachable v) : Acts s d d' := by
  induction h with
  | refl => exact .refl
  | tail _ h ih => exact ih.trans (h.acts hv)

theorem Prose.acts {es : List Event} (h : Prose [] es) (d : Draft) : Acts s d (d.logged es) :=
  .single (.prose h (.nil d))

/-- A walk is a sequence of acts. -/
theorem acts_of_walks (h : Walks (traversal s) s.toWorkspace d r d')
    (hr : ∀ v ∈ r.nodes, s.Reachable v) : Acts s d d' := by
  induction h with
  | stop => exact .refl
  | pause hp _ ih =>
    obtain ⟨es, hp, rfl⟩ := hp
    exact (hp.acts _).trans (ih hr)
  | seen _ _ ih => exact ih fun u hu => hr u (List.mem_cons_of_mem _ hu)
  | @enter d _ _ _ v _ _ _ _ hw _ _ ihi ihr =>
    have hv : s.Reachable v := hr v List.mem_cons_self
    have own := Own.acts hw.own hv
    have inner := ihi fun u hu => .step hv ((Works.nodes_subperm hw).subset hu)
    have rest := ihr fun u hu => hr u (List.mem_cons_of_mem _ hu)
    exact .head (.begins d v) (own.trans (inner.trans rest))
  | @inside d _ d₂ _ _ _ _ ho hb hc _ ihb ihr =>
    obtain rfl := ho
    obtain rfl := hc
    have body := ihb fun u hu => hr u (List.mem_append_left _ hu)
    have rest := ihr fun u hu => hr u (List.mem_append_right _ hu)
    have inside : openBlocks d₂.log.toList ≠ [] := by
      rw [openBlocks_of_walks hb, openBlocks_opened]
      exact List.cons_ne_nil _ _
    exact .head (.opens d) (body.trans (.head (.closes inside) rest))

/-- A pass with the built-in emitters is a sequence of acts. -/
theorem acts_draft (options : Options) (registry : Registry) (graph : Graph) :
    Acts ((withRegistry options registry).setting graph)
      ((withRegistry options registry).start graph)
      ((withRegistry options registry).draft graph) := by
  refine acts_of_walks (Generator.walks_withRegistry options registry graph) fun v hv => .entry ?_
  rwa [Route.nodes_ofNodes] at hv

/-- What every act keeps true is true in the end. -/
theorem holds_of_acts {I : Draft → Prop} (h : Acts s d d') (hd : I d)
    (step : ∀ d d', Act s d d' → I d → I d') : I d' := by
  induction h with
  | refl => exact hd
  | tail _ h ih => exact step _ _ h ih

/-! ### What acts change -/

/-- The blocks that are open tell how deep the text is. -/
def Draft.Balanced (d : Draft) : Prop :=
  d.depth = routineDepth + (openBlocks d.log.toList).length

theorem Draft.Balanced.of_log_eq {es : List Event} (hb : d.Balanced)
    (hl : d'.log.toList = d.log.toList ++ es) (hd : d'.depth = d.depth)
    (he : ∀ position blocks, blocksAfter position blocks es = blocks) : d'.Balanced := by
  unfold Balanced
  rw [hd, hl, openBlocks_append, he]
  exact hb

theorem Act.balanced (h : Act s d d') (hb : d.Balanced) : d'.Balanced := by
  cases h with
  | opens =>
    unfold Draft.Balanced at hb ⊢
    rw [openBlocks_opened, List.length_cons, ← Nat.add_assoc, ← hb]
    rfl
  | closes ho =>
    unfold Draft.Balanced at hb ⊢
    have := List.length_pos_of_ne_nil ho
    rw [openBlocks_closed, List.length_tail]
    change d.depth - 1 = _
    omega
  | prose hp => exact hb.of_log_eq (d.log_logged _) rfl hp.blocksAfter_eq
  | declare assigned =>
    exact hb.of_log_eq (s.log_declared _ _ _) rfl (blocksAfter_flat (s.isFlat_declaration _ _ _))
  | @fresh base => exact hb.of_log_eq (log_freshName base d) rfl fun _ _ => rfl
  | record port expression => exact hb.of_log_eq (log_record _ port expression d) rfl fun _ _ => rfl
  | _ => exact hb.of_log_eq (d.log_logged [_]) rfl fun _ _ => rfl

/-- An event that an act adds to the log, with the events that the same act has added before it. -/
inductive News (s : Setting) (d : Draft) : List Event → Event → Prop where
  | node (v : Node) : News s d [] (.node v.id)
  | prose {before : List Event} {names : List String} {e : Event} : e.IsProse names →
      Changeable names d → News s d before e
  | fresh {base : String} : base ≠ "" → News s d [] (.fresh (d.names.unique base).1)
  | bind {st : Statement} : TakenLast st.declared d → st.assigned = [] →
      News s d [] (.write st)
  | declare {v : Node} : v ∈ s.graph.nodes.toList → v.kind = Kind.var.name →
      s.variableName v ≠ "" → d.names.isDeclared (s.variableName v) = false →
      News s d [] (.declare (s.variableName v))
  /-- The line that belongs to the declaration. -/
  | initial {v : Node} {st : Statement} : st.declared ++ st.assigned = [s.variableName v] →
      (st.isConst → s.isReassigned (s.variableName v) = false) →
      News s d [.declare (s.variableName v)] (.write st)
  | read {v : Node} (index : Nat) : s.Reachable v → s.undeclared? d.names v index = none →
      News s d [] (.read ⟨v.id, index⟩ (s.resolveInput (s.outputSource d) v index))
  | assign {v : Node} {value : String} : s.Reachable v → v.kind = Kind.var.name →
      d.names.isDeclared (s.variableName v) = true → value ≠ s.variableName v →
      [.read ⟨v.id, 1⟩ (some value)] <:+ d.log.toList →
      News s d [] (.write (.assign (s.variableName v) value))
  | record {v : Node} (port : Nat) (expression : String) : s.Reachable v → Due v d →
      s.Outlet v port → News s d [] (.record ⟨v.id, port⟩ expression)

theorem News.single {e : Event} (h : News s d [] e) (i : Nat) (e' : Event)
    (he : [e][i]? = some e') : News s d ([e].take i) e' := by
  cases i with
  | zero => exact Option.some.inj he ▸ h
  | succ i => simp at he

/-- What is bound for good has been found to have no other value assigned. -/
theorem Setting.not_isReassigned_of_isConst (s : Setting) (v : Node) (assigned : Option String)
    (h : (Statement.declare (s.declaredKeyword v assigned) (s.variableName v)
      (s.declaredValue v assigned)).isConst) : s.isReassigned (s.variableName v) = false := by
  unfold declaredKeyword at h
  split at h
  next hc =>
    simp only [Bool.and_eq_true, Bool.not_eq_true'] at hc
    exact hc.2
  next => cases h

theorem News.declaration (hv : v ∈ s.graph.nodes.toList) (hk : v.kind = Kind.var.name)
    (hn : s.variableName v ≠ "") (hd : d.names.isDeclared (s.variableName v) = false)
    (assigned : Option String) (depth : Nat) (i : Nat) (e : Event)
    (he : (s.declaration v assigned depth)[i]? = some e) :
    News s d ((s.declaration v assigned depth).take i) e := by
  have both {st : Statement} (hst : st.declared ++ st.assigned = [s.variableName v])
      (hc : st.isConst → s.isReassigned (s.variableName v) = false) (i : Nat)
      (he : [Event.declare (s.variableName v), .write st][i]? = some e) :
      News s d ([Event.declare (s.variableName v), .write st].take i) e := by
    match i with
    | 0 => exact Option.some.inj he ▸ .declare hv hk hn hd
    | 1 => exact Option.some.inj he ▸ .initial hst hc
    | i + 2 => simp at he
  unfold Setting.declaration at he ⊢
  split at he
  next hdepth =>
    rw [if_pos hdepth]
    cases hvalue : s.declaredValue v assigned with
    | none =>
      rw [hvalue] at he
      exact News.single (.declare hv hk hn hd) i e he
    | some value =>
      rw [hvalue] at he
      have assigns : (Statement.assign (s.variableName v) value).isConst = false := rfl
      exact both rfl (fun hc => absurd hc (by simp [assigns])) i he
  next hdepth =>
    rw [if_neg hdepth]
    exact both rfl (s.not_isReassigned_of_isConst v assigned) i he

/-- What acts add to the log. -/
theorem Act.news (h : Act s d d') : ∃ es, d'.log.toList = d.log.toList ++ es ∧
    ∀ i e, es[i]? = some e → News s d (es.take i) e := by
  cases h with
  | begins v => exact ⟨_, d.log_logged [.node v.id], News.single (.node v)⟩
  | opens => exact ⟨_, d.log_logged [.indent], News.single (.prose trivial (.nil d))⟩
  | closes => exact ⟨_, d.log_logged [.dedent], News.single (.prose trivial (.nil d))⟩
  | prose hp hc =>
    exact ⟨_, d.log_logged _, fun i e he => .prose (hp.isProse e (List.mem_of_getElem? he)) hc⟩
  | @fresh base hb => exact ⟨_, log_freshName base d, News.single (.fresh hb)⟩
  | bind hd ha => exact ⟨_, d.log_logged _, News.single (.bind hd ha)⟩
  | declare assigned hv hk hn hd =>
    exact ⟨_, s.log_declared _ _ _, News.declaration hv hk hn hd assigned d.depth⟩
  | read index hv hn => exact ⟨_, d.log_logged _, News.single (.read index hv hn)⟩
  | assign hv hk _ hd hne hr =>
    exact ⟨_, d.log_logged _, News.single (.assign hv hk hd hne hr)⟩
  | record port expression hv due hp =>
    exact ⟨_, log_record _ port expression d, News.single (.record port expression hv due hp)⟩

/-- What holds of everything that an act adds to a log holds of the whole log. -/
theorem Act.each {P : List Event → Event → Prop} (h : Act s d d') (he : Each P d.log.toList)
    (hn : ∀ before e, News s d before e → P (d.log.toList ++ before) e) :
    Each P d'.log.toList := by
  obtain ⟨es, hl, hes⟩ := h.news
  rw [hl]
  exact he.append fun i e hi => hn _ e (hes i e hi)

/-! ### The states of a pass -/

/-- An act logs one thing, or some that record nothing. -/
theorem Act.log_cases (h : Act s d d') : (∃ e, d'.log.toList = d.log.toList ++ [e]) ∨
    ∃ es, d'.log.toList = d.log.toList ++ es ∧ nodesOf es = [] ∧ ∀ e ∈ es, e.record? = none := by
  cases h with
  | prose hp => exact .inr ⟨_, d.log_logged _, hp.nodesOf_eq, hp.record?_eq⟩
  | @declare v assigned =>
    have flat := s.isFlat_declaration v assigned d.depth
    exact .inr ⟨_, s.log_declared v assigned d, nodesOf_flat flat,
      record?_declaration v assigned d.depth⟩
  | @fresh base => exact .inl ⟨_, log_freshName base d⟩
  | record port expression => exact .inl ⟨_, log_record _ port expression d⟩
  | begins | opens | closes | bind | read | assign => exact .inl ⟨_, d.log_logged [_]⟩

theorem Act.told (h : Act s d d') (hd : d.Told) : d'.Told := by
  cases h with
  | begins v => exact hd.began v
  | opens => exact hd.opened
  | closes => exact hd.closed
  | prose hp => exact hd.logged hp.record?_eq
  | declare assigned => exact hd.declared _ assigned
  | fresh | bind | read | assign => exact hd.event rfl
  | @record v port expression => exact hd.recorded ⟨v.id, port⟩ expression

theorem log_prefix_of_acts (h : Acts s d d') : d.log.toList <+: d'.log.toList := by
  induction h with
  | refl => exact List.prefix_rfl
  | tail _ h ih =>
    obtain ⟨es, he, -⟩ := h.news
    exact ih.trans ⟨es, he.symm⟩

/-- The state is the last one at some moment: it is reached just then, or the act that goes on from
it begins no node and records nothing. -/
inductive LastAt (d : Draft) (es whole : List Event) : Prop where
  | reached : d.log.toList = es → LastAt d es whole
  | amid {more : List Event} {e : Event} : es = d.log.toList ++ more → es ++ [e] <+: whole →
      nodesOf (more ++ [e]) = [] → (∀ e' ∈ more, e'.record? = none) → LastAt d es whole

theorem LastAt.mono {es whole whole' : List Event} (h : LastAt d es whole)
    (hw : whole <+: whole') : LastAt d es whole' := by
  cases h with
  | reached h => exact .reached h
  | amid split next begun recorded => exact .amid split (next.trans hw) begun recorded

/-- While acts go on there is a last state at every moment. -/
theorem Acts.exists_lastAt (h : Acts s d d') {es : List Event} (hd : d.log.toList <+: es)
    (he : es <+: d'.log.toList) :
    ∃ d₁, Acts s d d₁ ∧ Acts s d₁ d' ∧ LastAt d₁ es d'.log.toList := by
  induction h with
  | refl => exact ⟨d, .refl, .refl, .reached (hd.eq_of_length_le he.length_le)⟩
  | @tail b c before step ih =>
    have earlier (he : es <+: b.log.toList) :
        ∃ d₁, Acts s d d₁ ∧ Acts s d₁ c ∧ LastAt d₁ es c.log.toList := by
      obtain ⟨d₁, reached, goesOn, last⟩ := ih he
      exact ⟨d₁, reached, goesOn.tail step, last.mono (log_prefix_of_acts (.single step))⟩
    rcases step.log_cases with ⟨e, grown⟩ | ⟨news, grown, begun, recorded⟩
    · rcases List.prefix_concat_iff.mp (grown ▸ he) with rfl | he
      · exact ⟨c, before.tail step, .refl, .reached grown⟩
      · exact earlier he
    · rcases List.prefix_or_prefix_of_prefix he ⟨news, grown.symm⟩ with he | ⟨more, rfl⟩
      · exact earlier he
      rw [grown, List.prefix_append_right_inj] at he
      obtain ⟨rest, rfl⟩ := he
      cases rest with
      | nil => exact ⟨c, before.tail step, .refl, .reached (by rw [grown, List.append_nil])⟩
      | cons e rest =>
        have next : b.log.toList ++ more ++ [e] <+: c.log.toList := ⟨rest, by simp [grown]⟩
        refine ⟨b, before, .single step, .amid rfl next ?_ ?_⟩
        · rw [List.append_cons, nodesOf_append] at begun
          exact (List.append_eq_nil_iff.mp begun).1
        · exact fun e' he' => recorded e' (List.mem_append_left _ he')

/-- The state occurs in the pass over a graph: acts lead to it, and on to what the pass leaves. -/
structure Generator.Occurs (g : Generator) (graph : Graph) (d : Draft) : Prop where
  reached : Acts (g.setting graph) (g.start graph) d
  goesOn : Acts (g.setting graph) d (g.draft graph)

namespace Generator.Occurs

variable {g : Generator} {graph : Graph}

theorem told (h : g.Occurs graph d) : d.Told :=
  holds_of_acts h.reached rfl fun _ _ step => step.told

theorem before (h : g.Occurs graph d) : d.log.toList <+: (g.draft graph).log.toList :=
  log_prefix_of_acts h.goesOn

end Generator.Occurs

/-- The course of a pass: it ends in a state that occurs, and there is such a state where a node
begins. What is recorded at any moment is what is recorded in one of these states. -/
structure Generator.Course (g : Generator) (graph : Graph) : Prop where
  ends : g.Occurs graph (g.draft graph)
  begins {before after : List Event} {id : NodeId}
    (h : (g.draft graph).log.toList = before ++ .node id :: after) :
    ∃ d, g.Occurs graph d ∧ d.log.toList = before
  recorded {es : List Event} (he : es <+: (g.draft graph).log.toList) :
    ∃ d, g.Occurs graph d ∧ d.outputs = Table.replay Event.record? es

theorem Generator.course (options : Options) (registry : Registry) (graph : Graph) :
    (withRegistry options registry).Course graph := by
  have acts := acts_draft options registry graph
  constructor
  · exact ⟨acts, .refl⟩
  · intro before after id h
    obtain ⟨d, reached, goesOn, last⟩ := acts.exists_lastAt List.nil_prefix ⟨_, h.symm⟩
    refine ⟨d, ⟨reached, goesOn⟩, ?_⟩
    cases last with
    | reached log => exact log
    | amid _ next begun =>
      rw [h, List.prefix_append_right_inj, List.cons_prefix_cons] at next
      simp [next.1, nodesOf] at begun
  · intro es he
    obtain ⟨d, reached, goesOn, last⟩ := acts.exists_lastAt List.nil_prefix he
    have occurs : (withRegistry options registry).Occurs graph d := ⟨reached, goesOn⟩
    refine ⟨d, occurs, ?_⟩
    cases last with
    | reached log => rw [← log, occurs.told]
    | amid split _ _ recorded =>
      rw [split, Table.replay_append_of_none recorded]
      exact occurs.told

end Source

end ScriptGraph
