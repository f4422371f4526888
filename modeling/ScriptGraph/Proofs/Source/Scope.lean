import ScriptGraph.Proofs.Source.DepthFirst

/-! # Temporaries and blocks

Temporaries are declared in place, in the block that is open where the emission of their node
begins, and the expression that is recorded for them outlives that block. Every input of a node is
read in the block in which the emission of the node begins. So whether a read is in the scope of the
declaration is decided by where the two nodes begin.
-/

namespace ScriptGraph.Source

/-- The blocks that are open after an event. A block goes by the position at which it was opened. -/
def Event.blocks (e : Event) (position : Nat) (blocks : List Nat) : List Nat :=
  match e with
  | .indent => position :: blocks
  | .dedent => blocks.tail
  | _ => blocks

def blocksAfter : (position : Nat) → (blocks : List Nat) → List Event → List Nat
  | _, blocks, [] => blocks
  | position, blocks, e :: es => blocksAfter (position + 1) (e.blocks position blocks) es

/-- The blocks that a log leaves open, the innermost first. -/
def openBlocks (es : List Event) : List Nat :=
  blocksAfter 0 [] es

def Event.isNode : Event → Bool
  | .node _ => true
  | _ => false

/-- What had happened when the emission of the node began that was begun last. -/
def beginning (es : List Event) : List Event :=
  (es.reverse.dropWhile (! ·.isNode)).tail.reverse

/-- The names that an event takes or declares. -/
def Event.introduced : Event → List String
  | .fresh name => [name]
  | .write statement => statement.declared
  | _ => []

/-- The event introduces a name, or an input is read. -/
def Event.isOwn : Event → Bool
  | .read _ _ => true
  | e => !e.introduced.isEmpty

theorem blocksAfter_append (position : Nat) (blocks : List Nat) (es es' : List Event) :
    blocksAfter position blocks (es ++ es') =
      blocksAfter (position + es.length) (blocksAfter position blocks es) es' := by
  induction es generalizing position blocks with
  | nil => rfl
  | cons e es ih =>
    simp only [List.cons_append, blocksAfter, ih, List.length_cons]
    congr 1
    omega

theorem openBlocks_append (es es' : List Event) :
    openBlocks (es ++ es') = blocksAfter es.length (openBlocks es) es' := by
  simpa [openBlocks] using blocksAfter_append 0 [] es es'

theorem blocksAfter_flat {es : List Event} (h : ∀ e ∈ es, e.isFlat) (position : Nat)
    (blocks : List Nat) : blocksAfter position blocks es = blocks := by
  induction es generalizing position with
  | nil => rfl
  | cons e es ih =>
    have he : e.blocks position blocks = blocks := by
      have := h e List.mem_cons_self
      cases e <;> first | rfl | cases this
    rw [blocksAfter, he]
    exact ih (fun e he => h e (List.mem_cons_of_mem _ he)) _

theorem Prose.blocksAfter_eq {temporaries : List String} {es : List Event}
    (h : Prose temporaries es) (position : Nat) (blocks : List Nat) :
    blocksAfter position blocks es = blocks := by
  induction h generalizing position blocks with
  | nil => rfl
  | line _ _ _ ih => exact ih _ _
  | blank _ ih => exact ih _ _
  | block _ _ ihb ih =>
    change blocksAfter (position + 1) (position :: blocks) _ = _
    rw [blocksAfter_append, ihb]
    exact ih _ _

theorem Prose.not_isOwn {temporaries : List String} {es : List Event} (h : Prose temporaries es) :
    ∀ e ∈ es, e.isOwn = false := by
  intro e he
  have prose := h.isProse e he
  cases e with
  | write st => simp [Event.isOwn, Event.introduced, prose.1]
  | blank | indent | dedent => rfl
  | _ => cases prose

theorem Event.isOwn_of_mem_introduced {e : Event} {name : String} (h : name ∈ e.introduced) :
    e.isOwn := by
  unfold isOwn
  split
  · rfl
  · rw [List.isEmpty_eq_false_iff_exists_mem.mpr ⟨name, h⟩]
    rfl

theorem beginning_append {es' : List Event} (es : List Event) (h : nodesOf es' = []) :
    beginning (es ++ es') = beginning es := by
  have hn : ∀ e ∈ es'.reverse, ! e.isNode := by
    intro e he
    have := List.filterMap_eq_nil_iff.mp h e (List.mem_reverse.mp he)
    cases e <;> simp_all [Event.isNode]
  rw [beginning, List.reverse_append, List.dropWhile_append_of_pos hn]
  rfl

theorem beginning_node (es : List Event) (id : NodeId) : beginning (es ++ [.node id]) = es := by
  simp [beginning, Event.isNode]

/-- Each event of a log stands in a relation to what happened before it. -/
def Each (P : List Event → Event → Prop) (es : List Event) : Prop :=
  ∀ i e, es[i]? = some e → P (es.take i) e

theorem Each.append {P : List Event → Event → Prop} {es es' : List Event} (h : Each P es)
    (h' : ∀ i e, es'[i]? = some e → P (es ++ es'.take i) e) : Each P (es ++ es') := by
  intro i e he
  rcases Nat.lt_or_ge i es.length with hi | hi
  · rw [List.getElem?_append_left hi] at he
    rw [List.take_append_of_le_length hi.le]
    exact h i e he
  · rw [List.getElem?_append_right hi] at he
    rw [List.take_append, List.take_of_length_le hi]
    exact h' _ e he

/-- Whatever a node does by itself it does in the block in which its emission began. -/
def Level (es : List Event) : Prop :=
  ∀ i e, es[i]? = some e → e.isOwn →
    openBlocks (es.take i) = openBlocks (beginning (es.take i))

namespace Level

variable {es es' : List Event}

theorem append (h : Level es) (h' : ∀ i e, es'[i]? = some e → e.isOwn →
    openBlocks (es ++ es'.take i) = openBlocks (beginning (es ++ es'.take i))) :
    Level (es ++ es') :=
  Each.append (P := fun before e =>
    e.isOwn → openBlocks before = openBlocks (beginning before)) h h'

theorem append_quiet (h : Level es) (hq : ∀ e ∈ es', e.isOwn = false) :
    Level (es ++ es') :=
  h.append fun _ e he ho => absurd ho (by simp [hq e (List.mem_of_getElem? he)])

theorem concat (h : Level es) {e : Event} (he : e.isOwn = false) : Level (es ++ [e]) :=
  h.append_quiet fun _ hm => by rwa [List.mem_singleton.mp hm]

theorem append_flat (h : Level es) (hb : openBlocks es = openBlocks (beginning es))
    (hf : ∀ e ∈ es', e.isFlat) : Level (es ++ es') := by
  refine h.append fun i _ _ _ => ?_
  have hf : ∀ e ∈ es'.take i, e.isFlat := fun e he => hf e (List.mem_of_mem_take he)
  rw [openBlocks_append, blocksAfter_flat hf, beginning_append es (nodesOf_flat hf), hb]

end Level

section

variable {s : Setting} {v : Node} {d d' : Draft} {r : Route}

theorem Operation.openBlocks_eq (h : Operation s v d d') :
    openBlocks d'.log.toList = openBlocks d.log.toList := by
  obtain ⟨es, he, ⟨_, hp⟩ | hf⟩ := h.log_eq
  · rw [he, openBlocks_append, hp.blocksAfter_eq]
  · rw [he, openBlocks_append, blocksAfter_flat hf]

theorem Own.openBlocks_eq (h : Own s v d d') :
    openBlocks d'.log.toList = openBlocks d.log.toList := by
  induction h with
  | refl => rfl
  | tail _ h ih => rw [h.openBlocks_eq, ih]

theorem openBlocks_began (v : Node) (d : Draft) :
    openBlocks (began v d).log.toList = openBlocks d.log.toList := by
  rw [show (began v d).log.toList = d.log.toList ++ [.node v.id] from d.log_logged _,
    openBlocks_append]
  rfl

theorem openBlocks_opened (d : Draft) :
    openBlocks (opened d).log.toList = d.log.toList.length :: openBlocks d.log.toList := by
  rw [show (opened d).log.toList = d.log.toList ++ [.indent] from d.log_logged _,
    openBlocks_append]
  rfl

theorem openBlocks_closed (d : Draft) :
    openBlocks (closed d).log.toList = (openBlocks d.log.toList).tail := by
  rw [show (closed d).log.toList = d.log.toList ++ [.dedent] from d.log_logged _,
    openBlocks_append]
  rfl

/-- A walk leaves those blocks open that were open. -/
theorem openBlocks_of_walks (h : Walks (traversal s) s.toWorkspace d r d') :
    openBlocks d'.log.toList = openBlocks d.log.toList := by
  induction h with
  | stop => rfl
  | pause hp _ ih =>
    obtain ⟨es, hp, rfl⟩ := hp
    rw [ih, Draft.log_logged, openBlocks_append, hp.blocksAfter_eq]
  | seen _ _ ih => exact ih
  | @enter d _ _ _ v _ _ _ _ hw _ _ ihi ihr =>
    have begun : openBlocks (began v d).log.toList = openBlocks d.log.toList :=
      openBlocks_began v d
    exact ihr.trans (ihi.trans ((Own.openBlocks_eq hw.own).trans begun))
  | inside ho _ hc _ ihb ihr =>
    obtain rfl := ho
    obtain rfl := hc
    rw [ihr, openBlocks_closed, ihb, openBlocks_opened]
    rfl

theorem level_of_own (h : Own s v d d') (hl : Level d.log.toList)
    (hb : openBlocks d.log.toList = openBlocks (beginning d.log.toList)) :
    Level d'.log.toList ∧ beginning d'.log.toList = beginning d.log.toList := by
  induction h with
  | refl => exact ⟨hl, rfl⟩
  | tail before h ih =>
    obtain ⟨hl, hs⟩ := ih
    have ho := Own.openBlocks_eq before
    obtain ⟨es, he, ⟨_, hp⟩ | hf⟩ := h.log_eq
    · rw [he, beginning_append _ hp.nodesOf_eq]
      exact ⟨hl.append_quiet hp.not_isOwn, hs⟩
    · rw [he, beginning_append _ (nodesOf_flat hf)]
      exact ⟨hl.append_flat (by rw [ho, hb, hs]) hf, hs⟩

/-- A walk keeps to the blocks of its nodes. -/
theorem level_of_walks (h : Walks (traversal s) s.toWorkspace d r d') (hl : Level d.log.toList) :
    Level d'.log.toList := by
  induction h with
  | stop => exact hl
  | pause hp _ ih =>
    obtain ⟨es, hp, rfl⟩ := hp
    refine ih ?_
    rw [Draft.log_logged]
    exact hl.append_quiet hp.not_isOwn
  | seen _ _ ih => exact ih hl
  | @enter d _ _ _ v _ _ _ _ hw _ _ ihi ihr =>
    have begun : (began v d).log.toList = d.log.toList ++ [.node v.id] := d.log_logged _
    refine ihr (ihi (level_of_own hw.own ?_ ?_).1)
    · change Level (began v d).log.toList
      rw [begun]
      exact hl.concat rfl
    · change openBlocks (began v d).log.toList = openBlocks (beginning (began v d).log.toList)
      rw [openBlocks_began, begun, beginning_node]
  | @inside d _ d₂ _ _ _ _ ho _ hc _ ihb ihr =>
    obtain rfl := ho
    obtain rfl := hc
    have hin : (opened d).log.toList = d.log.toList ++ [.indent] := d.log_logged _
    have hout : (closed d₂).log.toList = d₂.log.toList ++ [.dedent] := d₂.log_logged _
    rw [hin] at ihb
    rw [hout] at ihr
    exact ihr ((ihb (hl.concat rfl)).concat rfl)

end

/-! ### Reads of temporaries -/

/-- A name is introduced by an event of the log, and an input that is read later gives an expression
that contains it. -/
def ReadsTemporary (es : List Event) (i j : Nat) : Prop :=
  ∃ e input expression name, i < j ∧ es[i]? = some e ∧
    es[j]? = some (.read input (some expression)) ∧ name ∈ e.introduced ∧
      .fresh name ∈ es.take (i + 1) ∧ name.toList <:+: expression.toList

/-- A line of the log declares a temporary that has been taken, and an input that is read later gives
an expression that contains it. -/
def ReadsDeclared (es : List Event) (i j : Nat) : Prop :=
  ∃ st input expression name, i < j ∧ es[i]? = some (.write st) ∧
    es[j]? = some (.read input (some expression)) ∧ name ∈ st.declared ∧
      .fresh name ∈ es.take i ∧ name.toList <:+: expression.toList

theorem ReadsDeclared.readsTemporary {es : List Event} {i j : Nat} (h : ReadsDeclared es i j) :
    ReadsTemporary es i j := by
  obtain ⟨st, input, expression, name, hij, hi, hj, declared, taken, inside⟩ := h
  have later : .fresh name ∈ es.take (i + 1) :=
    (List.take_subset_take_left es (Nat.le_succ i)) taken
  exact ⟨.write st, input, expression, name, hij, hi, hj, declared, later, inside⟩

/-- Whether a temporary is declared at one place of a log and is all that is read at another. -/
def readsName (es : List Event) (i j : Nat) (name : String) : Bool :=
  i < j && es[i]?.any (fun | .write st => name ∈ st.declared | _ => false) &&
    es[j]?.any (fun | .read _ (some expression) => expression = name | _ => false) &&
    (es.take i).any fun | .fresh taken => taken = name | _ => false

theorem readsDeclared_of_readsName {es : List Event} {i j : Nat} {name : String}
    (h : readsName es i j name) : ReadsDeclared es i j := by
  simp only [readsName, Bool.and_eq_true, decide_eq_true_eq, Option.any_eq_true,
    List.any_eq_true] at h
  obtain ⟨⟨⟨hij, e, hi, hn⟩, e', hj, hr⟩, e'', ht, hf⟩ := h
  split at hn
  next st =>
    split at hr
    next input expression =>
      split at hf
      next taken =>
        obtain rfl := of_decide_eq_true hr
        obtain rfl := of_decide_eq_true hf
        exact ⟨st, input, _, _, hij, hi, hj, of_decide_eq_true hn, ht, List.infix_rfl⟩
      next => cases hf
    next => cases hr
  next => cases hn

theorem level_draft (options : Options) (graph : Graph) :
    Level ((builtin options).draft graph).log.toList := by
  refine level_of_walks (Generator.walks_draft options graph) ?_
  intro i e he
  simp [Generator.start] at he

/-- The block in which a temporary is declared is still open where it is read, exactly if the block
in which the emission of its node began is still open where the emission of the reading node
began. -/
theorem temporary_in_scope_iff (options : Options) (graph : Graph) {i j : Nat}
    (h : ReadsTemporary ((builtin options).draft graph).log.toList i j) :
    let log := ((builtin options).draft graph).log.toList
    openBlocks (log.take i) <:+ openBlocks (log.take j) ↔
      openBlocks (beginning (log.take i)) <:+ openBlocks (beginning (log.take j)) := by
  intro log
  obtain ⟨e, input, expression, name, -, hi, hj, hn, -, -⟩ := h
  have declared := level_draft options graph i e hi (Event.isOwn_of_mem_introduced hn)
  have read := level_draft options graph j _ hj rfl
  rw [declared, read]

/-- Temporaries of nodes that begin outside of all blocks can be read anywhere. -/
theorem temporary_in_scope_of_routine (options : Options) (graph : Graph) {i j : Nat}
    (h : ReadsTemporary ((builtin options).draft graph).log.toList i j)
    (hb : openBlocks (beginning (((builtin options).draft graph).log.toList.take i)) = []) :
    openBlocks (((builtin options).draft graph).log.toList.take i) <:+
      openBlocks (((builtin options).draft graph).log.toList.take j) := by
  obtain ⟨e, _, _, _, -, hi, -, hn, -, -⟩ := h
  rw [level_draft options graph i e hi (Event.isOwn_of_mem_introduced hn), hb]
  exact List.nil_suffix

/-- A condition with an operation on one side, and a line that shows its result on the other. -/
def acrossBranches : Graph :=
  .ofLists
    [{ id := .ofNat 1, kind := Kind.onStart.name }, { id := .ofNat 2, kind := Kind.condition.name },
      { id := .ofNat 3, kind := Kind.objectOperation.name },
      { id := .ofNat 4, kind := Kind.log.name },
      { id := .ofNat 5, kind := Kind.constant.name
        properties := [("type", .string "object"), ("value", .string "o")] }]
    [.between (.ofNat 1) 0 (.ofNat 2) 0, .between (.ofNat 2) 0 (.ofNat 3) 0,
      .between (.ofNat 2) 1 (.ofNat 4) 0, .between (.ofNat 5) 0 (.ofNat 3) 1,
      .between (.ofNat 3) 1 (.ofNat 4) 1]

theorem acrossBranches_reads :
    ReadsDeclared ((builtin .minimal).draft acrossBranches).log.toList 8 14 :=
  have reads : readsName ((builtin .minimal).draft acrossBranches).log.toList 8 14
      "objectResult" := by decide +kernel
  readsDeclared_of_readsName reads

/-- The result is read outside of the block in which the line that declares it stands. -/
theorem acrossBranches_out_of_scope :
    ¬ ∀ (options : Options) (graph : Graph) (i j : Nat),
      ReadsDeclared ((builtin options).draft graph).log.toList i j →
        openBlocks (((builtin options).draft graph).log.toList.take i) <:+
          openBlocks (((builtin options).draft graph).log.toList.take j) := by
  intro h
  have within := h .minimal acrossBranches 8 14 acrossBranches_reads
  revert within
  decide +kernel

theorem acrossBranches_in_scope_iff :
    ReadsTemporary ((builtin .minimal).draft acrossBranches).log.toList 8 14 ∧
      (openBlocks (((builtin .minimal).draft acrossBranches).log.toList.take 8) <:+
          openBlocks (((builtin .minimal).draft acrossBranches).log.toList.take 14) ↔
        openBlocks (beginning (((builtin .minimal).draft acrossBranches).log.toList.take 8)) <:+
          openBlocks
            (beginning (((builtin .minimal).draft acrossBranches).log.toList.take 14))) :=
  ⟨acrossBranches_reads.readsTemporary,
    temporary_in_scope_iff .minimal acrossBranches acrossBranches_reads.readsTemporary⟩

end ScriptGraph.Source
