import ScriptGraph.Proofs.Source.Draft
import ScriptGraph.Proofs.Walk.Program

/-! # Operations of emitters

Whatever an emitter does by itself is a sequence of few operations: it writes prose, reads inputs of
its node, takes temporaries and binds them, declares or assigns the variable of its node, and
records expressions on its outputs.
-/

namespace ScriptGraph.Source

/-- Some inputs have been read. -/
def Reads (v : Node) (indices : List Nat) (d : Draft) : Prop :=
  ∀ index ∈ indices, ∃ expression, .read ⟨v.id, index⟩ expression ∈ d.log.toList

/-- A node may have a result, and has read both operands if it does arithmetic. -/
structure Due (v : Node) (d : Draft) : Prop where
  start : v.kind ≠ Kind.onStart.name
  store : v.kind ≠ Kind.var.name ∧ v.kind ≠ Kind.constant.name
  operands : v.kind = Kind.mathOperation.name → Reads v [1, 2] d

/-- Temporaries that were taken last, and in this order. -/
structure TakenLast (names : List String) (d : Draft) : Prop where
  taken : names ⊆ d.names.temporaries
  last : names.map Event.fresh <:+ d.log.toList

/-- Temporaries that lines of the log have bound by `let`. -/
structure Changeable (names : List String) (d : Draft) : Prop where
  taken : names ⊆ d.names.temporaries
  bound : ∀ x ∈ names, ∃ st, .write st ∈ d.log.toList ∧ x ∈ st.declared ∧ st.isConst = false

theorem Changeable.nil (d : Draft) : Changeable [] d :=
  ⟨List.nil_subset _, fun _ hx => absurd hx List.not_mem_nil⟩

theorem Changeable.logged {names : List String} {d : Draft} (h : Changeable names d)
    (es : List Event) : Changeable names (d.logged es) := by
  refine ⟨h.taken, fun x hx => ?_⟩
  obtain ⟨st, hst, bound⟩ := h.bound x hx
  rw [Draft.log_logged]
  exact ⟨st, List.mem_append_left _ hst, bound⟩

/-- One thing that an emitter does at a node. -/
inductive Operation (s : Setting) (v : Node) : Draft → Draft → Prop where
  | prose {d : Draft} {names : List String} {es : List Event} : Prose names es →
      Changeable names d → Operation s v d (d.logged es)
  | read (d : Draft) (index : Nat) : Operation s v d ((s.input v index).run d).2
  | fresh (d : Draft) {base : String} : base ≠ "" → Operation s v d ((freshName base).run d).2
  /-- A line binds all the temporaries that have just been taken. -/
  | bind {d : Draft} {st : Statement} : TakenLast st.declared d → st.assigned = [] →
      Operation s v d (d.logged [.write st])
  | declare {d : Draft} {name : String} (assigned : Option String) : v.kind = Kind.var.name →
      (s.props v).nonEmpty? "name" = some name → d.names.isDeclared name = false →
      Operation s v d ((s.declareVariable v assigned).run d).2
  /-- The value that is assigned has just been read. -/
  | assign {d : Draft} {name value : String} : v.kind = Kind.var.name →
      (s.props v).nonEmpty? "name" = some name → d.names.isDeclared name = true → value ≠ name →
      [.read ⟨v.id, 1⟩ (some value)] <:+ d.log.toList →
      Operation s v d (d.logged [.write (.assign name value)])
  | record {d : Draft} (port : Nat) (expression : String) : Due v d → s.Outlet v port →
      Operation s v d ((record v port expression).run d).2

/-- What an emitter does by itself at a node. -/
abbrev Own (s : Setting) (v : Node) : Draft → Draft → Prop :=
  Relation.ReflTransGen (Operation s v)

/-! ### What operations change -/

namespace Operation

variable {s : Setting} {v : Node} {d d' : Draft}

theorem visited_eq (h : Operation s v d d') : d'.visited = d.visited := by
  cases h with
  | read index => simp [Setting.input_run, Draft.logged]
  | declare assigned => rw [Setting.declareVariable_run]; rfl
  | _ => rfl

/-- An operation only adds to the log: prose, or events without nodes and blocks. -/
theorem log_eq (h : Operation s v d d') : ∃ es, d'.log.toList = d.log.toList ++ es ∧
    ((∃ temporaries, Prose temporaries es) ∨ ∀ e ∈ es, e.isFlat) := by
  cases h with
  | prose hp => exact ⟨_, d.log_logged _, .inl ⟨_, hp⟩⟩
  | read index =>
    obtain ⟨es, hf, he⟩ := s.log_withProducer v index d
    refine ⟨es ++ [.read ⟨v.id, index⟩ (s.resolveInput (s.outputSource d) v index)], ?_, .inr ?_⟩
    · simp [Setting.input_run, he]
    · intro e hm
      rcases List.mem_append.mp hm with hm | hm
      · exact hf e hm
      · obtain rfl := List.mem_singleton.mp hm
        rfl
  | @fresh base =>
    exact ⟨_, log_freshName base d, .inr (by simp [Event.isFlat])⟩
  | bind hd ha => exact ⟨_, d.log_logged _, .inr (by simp [Event.isFlat])⟩
  | declare assigned =>
    rw [Setting.declareVariable_run]
    exact ⟨_, s.log_declared _ _ _, .inr (s.isFlat_declaration _ _ _)⟩
  | assign => exact ⟨_, d.log_logged _, .inr (by simp [Event.isFlat])⟩
  | record port expression =>
    exact ⟨_, log_record v port expression d, .inr (by simp [Event.isFlat])⟩

end Operation

/-! ### Programs of operations -/

/-- What has been recorded. -/
abbrev OutputsAre (outputs : Table PortRef String) (d : Draft) : Prop :=
  d.outputs = outputs

/-- What has been recorded, and some temporaries that may be given other values. -/
def Knows (outputs : Table PortRef String) (names : List String) (d : Draft) : Prop :=
  OutputsAre outputs d ∧ Changeable names d

/-- What has been recorded, and the temporaries that have just been taken. -/
def Takings (outputs : Table PortRef String) (names : List String) (d : Draft) : Prop :=
  OutputsAre outputs d ∧ TakenLast names d

section

variable {s : Setting} {v : Node} {outputs : Table PortRef String} {names names' : List String}

theorem Prints.takes_knowing {x : EmitM Unit} (h : Prints names x) :
    Takes (Operation s v) (Knows outputs names) x fun _ => Knows outputs names := by
  obtain ⟨es, he, hx⟩ := h
  refine .single fun d hd => ?_
  rw [hx]
  exact ⟨.prose he hd.2, hd.1, hd.2.logged es⟩

theorem Prints.takes {x : EmitM Unit} (h : Prints [] x) :
    Takes (Operation s v) (OutputsAre outputs) x fun _ => OutputsAre outputs :=
  h.takes_knowing.conseq (fun d hd => ⟨hd, .nil d⟩) fun _ _ hd => hd.1

theorem Takings.suffix {d : Draft} (h : Takings outputs names d) (hs : names' <:+ names) :
    Takings outputs names' d := by
  obtain ⟨ho, taken, last⟩ := h
  exact ⟨ho, List.Subset.trans hs.subset taken, (hs.map Event.fresh).trans last⟩

theorem takes_freshName {base : String} (hb : base ≠ "") :
    Takes (Operation s v) (Takings outputs names) (freshName base)
      fun name => Takings outputs (names ++ [name]) := by
  refine .single fun d hd => ⟨.fresh d hb, ?_⟩
  obtain ⟨ho, taken, before, hl⟩ := hd
  rw [freshName_run]
  refine ⟨ho, fun x hx => ?_, before, ?_⟩
  · rcases List.mem_append.mp hx with hx | hx
    · exact List.mem_cons_of_mem _ (taken hx)
    · exact List.mem_singleton.mp hx ▸ List.mem_cons_self
  · rw [List.map_append, ← List.append_assoc, hl]
    exact (d.log_logged [.fresh (d.names.unique base).1]).symm

theorem takes_firstName {base : String} (hb : base ≠ "") :
    Takes (Operation s v) (OutputsAre outputs) (freshName base)
      fun name => Takings outputs [name] :=
  (takes_freshName hb).conseq (fun _ hd => ⟨hd, List.nil_subset _, List.nil_suffix⟩)
    fun _ _ h => h

/-- The temporaries that have just been taken may be bound. -/
theorem takes_bind (st : Statement) (ha : st.assigned = []) :
    Takes (Operation s v) (Takings outputs st.declared) (write st)
      fun _ => OutputsAre outputs := by
  refine .single fun d hd => ?_
  rw [write_run]
  exact ⟨.bind hd.2 ha, hd.1⟩

/-- What is bound by `let` may be given other values. -/
theorem takes_bind_let (st : Statement) (ha : st.assigned = []) (hc : st.isConst = false) :
    Takes (Operation s v) (Takings outputs st.declared) (write st)
      fun _ => Knows outputs st.declared := by
  refine .single fun d hd => ?_
  rw [write_run]
  refine ⟨.bind hd.2 ha, hd.1, hd.2.taken, fun x hx => ⟨st, ?_, hx, hc⟩⟩
  rw [Draft.log_logged]
  exact List.mem_append_right _ (List.mem_singleton_self _)

theorem takes_input (index : Nat) :
    Takes (Operation s v) (OutputsAre outputs) (s.input v index)
      fun expression d => expression = s.given outputs v index ∧ OutputsAre outputs d := by
  refine .single fun d hd => ⟨.read d index, ?_⟩
  rw [Setting.input_run]
  obtain rfl := hd
  exact ⟨rfl, s.outputs_withProducer ..⟩

/-- What has been recorded, and some inputs that have been read. -/
def HasRead (s : Setting) (v : Node) (outputs : Table PortRef String) (indices : List Nat)
    (d : Draft) : Prop :=
  d.outputs = outputs ∧ ∀ index ∈ indices,
    .read ⟨v.id, index⟩ (s.given outputs v index) ∈ d.log.toList

theorem takes_read {indices : List Nat} (index : Nat) :
    Takes (Operation s v) (HasRead s v outputs indices) (s.input v index) fun expression d =>
      expression = s.given outputs v index ∧ HasRead s v outputs (indices ++ [index]) d := by
  refine .single fun d hd => ⟨.read d index, ?_⟩
  obtain ⟨rfl, reads⟩ := hd
  obtain ⟨es, -, he⟩ := s.log_withProducer v index d
  rw [Setting.input_run]
  refine ⟨rfl, s.outputs_withProducer .., fun k hk => ?_⟩
  rw [Draft.log_logged, he]
  rcases List.mem_append.mp hk with hk | hk
  · simp [reads k hk]
  · obtain rfl := List.mem_singleton.mp hk
    exact List.mem_append_right _ (List.mem_singleton_self _)

theorem HasRead.reads {indices : List Nat} {d : Draft} (h : HasRead s v outputs indices d) :
    Reads v indices d :=
  fun index hi => ⟨_, h.2 index hi⟩

theorem Due.of_kind {kind : Kind} (hk : Kind.ofName? v.kind = some kind)
    (h : kind ∉ [.onStart, .mathOperation, .var, .constant]) (d : Draft) : Due v d := by
  have other {kind' : Kind} (hm : kind' ∈ [.onStart, .mathOperation, .var, .constant]) :
      v.kind ≠ kind'.name := by
    intro he
    obtain rfl := Kind.eq_of_name hk he
    exact h hm
  constructor
  · exact other (by simp)
  · exact ⟨other (by simp), other (by simp)⟩
  · exact fun hm => absurd hm (other (by simp))

theorem takes_record {port : Nat} (hp : s.Outlet v port) (expression : String)
    (hr : ∀ d, Due v d) :
    Takes (Operation s v) (OutputsAre outputs) (record v port expression)
      fun _ => OutputsAre (outputs.insert ⟨v.id, port⟩ expression) := by
  refine .single fun d hd => ⟨.record port expression (hr d) hp, ?_⟩
  obtain rfl := hd
  rfl

/-- The result of a node has been recorded, if it has an output for one. -/
def Recorded (s : Setting) (v : Node) (d : Draft) : Prop :=
  ∀ port ∈ s.primary? v, d.outputs.contains ⟨v.id, port⟩

theorem takes_recordPrimary {P : Draft → Prop} (expression : String) (hr : ∀ d, P d → Due v d) :
    Takes (Operation s v) P (s.recordPrimary v expression) fun _ => Recorded s v := by
  unfold Setting.recordPrimary
  cases hp : (s.registry.portsOf? v).bind (·.primaryOutput?) with
  | none =>
    refine .pure fun d _ port hport => ?_
    simp [Workspace.primary?, hp] at hport
  | some port =>
    refine .single fun d hd => ⟨.record port expression (hr d hd) (.inl hp), fun port' hport => ?_⟩
    obtain rfl : port = port' := by simpa [Workspace.primary?, hp] using hport
    change (Table.contains (d.outputs.insert _ expression) _) = true
    rw [Table.contains, Table.get?_insert_self]
    rfl

end

end ScriptGraph.Source
