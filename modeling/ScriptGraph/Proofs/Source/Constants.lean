import ScriptGraph.Proofs.Source.Temporaries

/-! # Names that are bound for good

Whether a variable can be bound for good is decided before the pass begins, from all nodes of the
variable. A pass writes one declaration for each name, and what it assigns later has been bound by
`let`, has been assigned in place of its declaration, or is a variable that was found to have other
values. So a name that is bound for good keeps the value that it was bound to. Names that some line
of fixed text binds inside of a block of its own, such as the response to a request, are left aside.
-/

namespace ScriptGraph.Source

variable {s : Setting} {d d' : Draft} {es : List Event} {x : String}

/-! ### Where names come from -/

/-- How a line comes to declare or to assign a name, and an input to give an expression. -/
structure Grounded (s : Setting) (before : List Event) (e : Event) : Prop where
  /-- The names are temporaries that have just been taken, or a variable that is being declared. -/
  declares {st : Statement} {x : String} (he : e = .write st) (hx : x ∈ st.declared) :
    st.declared.map Event.fresh <:+ before ∨
      ([.declare x] <:+ before ∧ (st.isConst → s.isReassigned x = false))
  assigns {st : Statement} {x : String} (he : e = .write st) (hx : x ∈ st.assigned) :
    (∃ st', .write st' ∈ before ∧ x ∈ st'.declared ∧ st'.isConst = false) ∨
      [.declare x] <:+ before ∨ s.isReassigned x
  reads {input : PortRef} {expression : String} (he : e = .read input (some expression)) :
    (s.graph.edgeInto input.node input.port).isSome

/-- Neither does the event write a line, nor does an input give an expression. -/
theorem Grounded.of_quiet {before : List Event} {e : Event} (hw : ∀ st, e ≠ .write st)
    (hr : ∀ input expression, e ≠ .read input (some expression)) : Grounded s before e :=
  ⟨fun he => absurd he (hw _), fun he => absurd he (hw _), fun he => absurd he (hr _ _)⟩

/-- An input that gives an expression has an edge. -/
theorem Setting.isSome_edgeInto_of_resolveInput (s : Setting) {source : OutputSource String}
    {v : Node} {index : Nat} {expression : String}
    (h : s.resolveInput source v index = some expression) :
    (s.graph.edgeInto v.id index).isSome := by
  cases he : s.graph.edgeInto v.id index with
  | some edge => rfl
  | none => simp [Workspace.resolveInput, Workspace.producer?, he] at h

/-- A variable whose node has its value wired is found to have other values. -/
theorem Setting.isReassigned_of_edgeInto {v : Node} (hv : v ∈ s.graph.nodes.toList)
    (hk : v.kind = Kind.var.name) (he : (s.graph.edgeInto v.id 1).isSome) :
    s.isReassigned (s.variableName v) := by
  have node : v ∈ (s.graph.nodesOfKind Kind.var.name).filter
      (s.variableName · = s.variableName v) := by
    simp [Graph.nodesOfKind, hv, hk]
  unfold isReassigned
  rw [Bool.or_eq_true]
  exact .inr (List.any_eq_true.mpr ⟨v, node, he⟩)

theorem Setting.mem_names_of_isReassigned (h : s.isReassigned x) :
    x ∈ (s.graph.nodesOfKind Kind.var.name).map s.variableName := by
  obtain ⟨v, hv⟩ : ∃ v, v ∈ (s.graph.nodesOfKind Kind.var.name).filter (s.variableName · = x) := by
    rcases Bool.or_eq_true .. |>.mp h with hn | hn
    · exact List.exists_mem_of_length_pos (Nat.zero_lt_of_lt (of_decide_eq_true hn))
    · obtain ⟨v, hv, -⟩ := List.any_eq_true.mp hn
      exact ⟨v, hv⟩
  obtain ⟨hv, hx⟩ := List.mem_filter.mp hv
  exact List.mem_map.mpr ⟨v, hv, of_decide_eq_true hx⟩

theorem Act.grounded (h : Act s d d') (hd : Each (Grounded s) d.log.toList) :
    Each (Grounded s) d'.log.toList := by
  refine h.each hd fun before e news => ?_
  cases news with
  | @prose _ names _ hp hc =>
    cases e with
    | write st =>
      refine ⟨fun he hx => ?_, fun he hx => ?_, nofun⟩
      · obtain rfl := Event.write.inj he
        rw [hp.1] at hx
        exact absurd hx List.not_mem_nil
      · obtain rfl := Event.write.inj he
        obtain ⟨st', hst', bound⟩ := hc.bound _ (hp.2 hx)
        exact .inl ⟨st', List.mem_append_left _ hst', bound⟩
    | blank | indent | dedent => exact .of_quiet nofun nofun
    | _ => cases hp
  | node | fresh | declare | record => exact .of_quiet nofun nofun
  | @bind st hst ha =>
    rw [List.append_nil]
    refine ⟨fun he _ => ?_, fun he hx => ?_, nofun⟩
    · obtain rfl := Event.write.inj he
      exact .inl hst.last
    · obtain rfl := Event.write.inj he
      rw [ha] at hx
      exact absurd hx List.not_mem_nil
  | @initial v st hst hc =>
    have declared : [.declare (s.variableName v)] <:+
        d.log.toList ++ [.declare (s.variableName v)] := List.suffix_append _ _
    refine ⟨fun he hx => ?_, fun he hx => ?_, nofun⟩
    · obtain rfl := Event.write.inj he
      obtain rfl := List.mem_singleton.mp (hst ▸ List.mem_append_left _ hx)
      exact .inr ⟨declared, hc⟩
    · obtain rfl := Event.write.inj he
      obtain rfl := List.mem_singleton.mp (hst ▸ List.mem_append_right _ hx)
      exact .inr (.inl declared)
  | read index =>
    refine ⟨nofun, nofun, fun he => ?_⟩
    obtain ⟨rfl, value⟩ := Event.read.inj he
    exact s.isSome_edgeInto_of_resolveInput value
  | @assign v value hv hk _ _ hr =>
    refine ⟨fun he hx => ?_, fun he hx => .inr (.inr ?_), nofun⟩
    · obtain rfl := Event.write.inj he
      exact absurd hx List.not_mem_nil
    · obtain rfl := Event.write.inj he
      obtain rfl := List.mem_singleton.mp hx
      obtain ⟨i, hi⟩ := List.mem_iff_getElem?.mp (hr.subset (List.mem_singleton_self _))
      exact Setting.isReassigned_of_edgeInto (s.mem_nodes_of_reachable hv) hk
        ((hd i _ hi).reads rfl)

theorem grounded_draft (options : Options) (registry : Registry) (graph : Graph) :
    Each (Grounded ((withRegistry options registry).setting graph))
      ((withRegistry options registry).draft graph).log.toList := by
  refine holds_of_acts (I := fun d => Each _ d.log.toList) (acts_draft options registry graph) ?_
    fun _ _ h hd => h.grounded hd
  intro i e he
  simp [Generator.start] at he

/-! ### One declaration for each name -/

/-- What is true of names at every moment of a pass. -/
structure Settled (s : Setting) (d : Draft) : Prop where
  apart : Apart s d
  declares : Declares s d
  supplied : Supplied d
  grounded : Each (Grounded s) d.log.toList

theorem settled_draft (options : Options) (registry : Registry) (graph : Graph) :
    Settled ((withRegistry options registry).setting graph)
      ((withRegistry options registry).draft graph) where
  apart := (orderly_draft options registry graph).apart
  declares := (orderly_draft options registry graph).declares
  supplied := supplied_draft options registry graph
  grounded := grounded_draft options registry graph

/-- From where a temporary has been taken nothing but temporaries are taken until it is bound. -/
theorem fresh_of_suffix {names : List String} {j : Nat} (h : names.map Event.fresh <:+ es.take j)
    (hj : j ≤ es.length) (hx : x ∈ names) : ∃ p < j, es[p]? = some (.fresh x) ∧
      ∀ k, p ≤ k → k < j → ∃ name, es[k]? = some (.fresh name) := by
  obtain ⟨before, hb⟩ := h
  have length : before.length + names.length = j := by
    simpa [Nat.min_eq_left hj] using congrArg List.length hb
  have entry (q : Nat) (hq : q < names.length) :
      es[before.length + q]? = some (.fresh names[q]) := by
    have taken : (es.take j)[before.length + q]? = es[before.length + q]? := by
      rw [List.getElem?_take, if_pos (by omega)]
    rw [← taken, ← hb, List.getElem?_append_right (Nat.le_add_right _ _)]
    simp [hq]
  obtain ⟨q, hq, rfl⟩ := List.mem_iff_getElem.mp hx
  refine ⟨before.length + q, by omega, entry q hq, fun k hp hk => ?_⟩
  have shifted := entry (k - before.length) (by omega)
  rw [Nat.add_sub_of_le (by omega)] at shifted
  exact ⟨_, shifted⟩

namespace Settled

variable {i j : Nat} {st st' : Statement}

/-- A line that declares a name comes behind the event that introduces the name: no other line
stands in between. -/
theorem introduced (h : Settled s d) (hi : d.log.toList[i]? = some (.write st))
    (hx : x ∈ st.declared) : ∃ p < i, (d.log.toList[p]? = some (.fresh x) ∨
      d.log.toList[p]? = some (.declare x)) ∧
        ∀ k, p ≤ k → k < i → ∀ st', d.log.toList[k]? ≠ some (.write st') := by
  have within : i ≤ d.log.toList.length := (List.getElem?_eq_some_iff.mp hi).1.le
  rcases (h.grounded i _ hi).declares rfl hx with taken | ⟨declared, -⟩
  · obtain ⟨p, hp, here, between⟩ := fresh_of_suffix taken within hx
    refine ⟨p, hp, .inl here, fun k hpk hki st' => ?_⟩
    obtain ⟨name, hk⟩ := between k hpk hki
    rw [hk]
    exact nofun
  · obtain ⟨p, rfl, here⟩ := getElem?_of_suffix_take declared within
    refine ⟨p, Nat.lt_succ_self p, .inr here, fun k hpk hki st' => ?_⟩
    obtain rfl : p = k := by omega
    rw [here]
    exact nofun

theorem not_fresh_of_declare (h : Settled s d) (hi : d.log.toList[i]? = some (.declare x)) :
    d.log.toList[j]? ≠ some (.fresh x) := by
  intro hj
  have temporary := (h.supplied.known x).mpr (mem_temporariesOf.mpr (List.mem_of_getElem? hj))
  exact h.apart.temporaries x temporary
    (h.declares.named (mem_variablesOf.mpr (List.mem_of_getElem? hi)))

/-- A name is introduced by one event. -/
theorem introduced_unique (h : Settled s d)
    (hi : d.log.toList[i]? = some (.fresh x) ∨ d.log.toList[i]? = some (.declare x))
    (hj : d.log.toList[j]? = some (.fresh x) ∨ d.log.toList[j]? = some (.declare x)) : i = j := by
  rcases hi with hi | hi
  · rcases hj with hj | hj
    · exact index_unique h.supplied.once hi hj rfl rfl
    · exact absurd hi (h.not_fresh_of_declare hj)
  · rcases hj with hj | hj
    · exact absurd hj (h.not_fresh_of_declare hi)
    · exact declare_index_unique h.declares.once hi hj

/-- No two lines declare one name. -/
theorem declared_unique (h : Settled s d) (hi : d.log.toList[i]? = some (.write st))
    (hx : x ∈ st.declared) (hj : d.log.toList[j]? = some (.write st')) (hx' : x ∈ st'.declared) :
    i = j := by
  obtain ⟨p, hp, here, quiet⟩ := h.introduced hi hx
  obtain ⟨q, hq, there, quiet'⟩ := h.introduced hj hx'
  obtain rfl := h.introduced_unique here there
  rcases Nat.lt_trichotomy i j with hij | hij | hij
  · exact absurd hi (quiet' i hp.le hij st)
  · exact hij
  · exact absurd hj (quiet j hq.le hij st')

theorem not_mem_hoisted (h : Settled s d) (hi : d.log.toList[i]? = some (.write st))
    (hx : x ∈ st.declared) : x ∉ d.hoisted := by
  intro hh
  have line : st ∈ d.log.toList.filterMap Event.statement? :=
    List.mem_filterMap.mpr ⟨_, List.mem_of_getElem? hi, rfl⟩
  have inPlace : x ∈ declaredIn d.log.toList := List.mem_flatMap.mpr ⟨st, line, hx⟩
  have variableName := h.declares.named (h.declares.hoisted hh)
  have count := h.declares.lines x variableName
  have once := List.nodup_iff_count_le_one.mp h.declares.once x
  have first := List.count_pos_iff.mpr hh
  have second := List.count_pos_iff.mpr inPlace
  rw [Draft.declarations_eq, List.count_append] at count
  omega

/-! ### Names that are bound for good -/

variable {value : Option String}

/-- What is bound for good has been introduced just before, and has no other values if it is a
variable. -/
theorem introduced_of_const (h : Settled s d)
    (hi : d.log.toList[i]? = some (.write (.declare .constBinding x value))) :
    ∃ p, p + 1 = i ∧ (d.log.toList[p]? = some (.fresh x) ∨
      (d.log.toList[p]? = some (.declare x) ∧ s.isReassigned x = false)) := by
  have within : i ≤ d.log.toList.length := (List.getElem?_eq_some_iff.mp hi).1.le
  rcases (h.grounded i _ hi).declares rfl (List.mem_singleton_self x) with taken | ⟨declared, hc⟩
  · obtain ⟨p, hp, here⟩ := getElem?_of_suffix_take taken within
    exact ⟨p, hp, .inl here⟩
  · obtain ⟨p, hp, here⟩ := getElem?_of_suffix_take declared within
    exact ⟨p, hp, .inr ⟨here, hc rfl⟩⟩

theorem not_assigned_of_const (h : Settled s d)
    (hi : d.log.toList[i]? = some (.write (.declare .constBinding x value)))
    (hj : d.log.toList[j]? = some (.write st)) : x ∉ st.assigned := by
  intro hx
  obtain ⟨p, hp, origin⟩ := h.introduced_of_const hi
  have introduced : d.log.toList[p]? = some (.fresh x) ∨ d.log.toList[p]? = some (.declare x) :=
    origin.imp_right And.left
  rcases (h.grounded j _ hj).assigns rfl hx with ⟨st', hst', hd, hc⟩ | declared | reassigned
  · -- The line that binds the name by `let` would be the one that binds it for good.
    obtain ⟨k, hk⟩ := List.mem_iff_getElem?.mp (List.mem_of_mem_take hst')
    obtain rfl := h.declared_unique hi (List.mem_singleton_self x) hk hd
    obtain rfl : Statement.declare .constBinding x value = st' := by
      simpa using hi.symm.trans hk
    cases hc
  · have within : j ≤ d.log.toList.length := (List.getElem?_eq_some_iff.mp hj).1.le
    obtain ⟨q, hq, there⟩ := getElem?_of_suffix_take declared within
    obtain rfl := h.introduced_unique introduced (.inr there)
    obtain rfl : i = j := hp.symm.trans hq
    obtain rfl : Statement.declare .constBinding x value = st := by
      simpa using hi.symm.trans hj
    exact absurd hx List.not_mem_nil
  · rcases origin with fresh | ⟨-, unchanged⟩
    · have temporary := mem_temporariesOf.mpr (List.mem_of_getElem? fresh)
      exact h.supplied.disjoint h.apart temporary (Setting.mem_names_of_isReassigned reassigned)
    · rw [reassigned] at unchanged
      cases unchanged

end Settled

/-- The line at a position is the only one that gives a name its value. -/
structure BoundForGood (d : Draft) (i : Nat) (x : String) : Prop where
  declared (j : Nat) (st : Statement) (h : d.log.toList[j]? = some (.write st))
    (hx : x ∈ st.declared) : j = i
  /-- The name is not declared in the line that opens the body of the routine. -/
  hoisted : x ∉ d.hoisted
  assigned (j : Nat) (st : Statement) (h : d.log.toList[j]? = some (.write st)) : x ∉ st.assigned
  /-- A temporary of this name is taken for this line, and so counts the rounds of no loop. -/
  taken (j : Nat) (h : d.log.toList[j]? = some (.fresh x)) : j + 1 = i

theorem Settled.boundForGood (h : Settled s d) {i : Nat} {value : Option String}
    (hi : d.log.toList[i]? = some (.write (.declare .constBinding x value))) :
    BoundForGood d i x where
  declared _ _ hj hx := h.declared_unique hj hx hi (List.mem_singleton_self x)
  hoisted := h.not_mem_hoisted hi (List.mem_singleton_self x)
  assigned _ _ hj := h.not_assigned_of_const hi hj
  taken j hj := by
    obtain ⟨p, hp, origin⟩ := h.introduced_of_const hi
    obtain rfl := h.introduced_unique (.inl hj) (origin.imp_right And.left)
    exact hp

/-- A variable that holds an object, and another one for what is found in it. -/
def memberOfConstant : Graph :=
  .ofLists
    [{ id := .ofNat 1, kind := Kind.onStart.name },
      { id := .ofNat 2, kind := Kind.var.name
        properties := [("name", .string "x"), ("type", .string "object"),
          ("initialValue", .string "o")] },
      { id := .ofNat 3, kind := Kind.objectOperation.name },
      { id := .ofNat 4, kind := Kind.var.name, properties := [("name", .string "y")] }]
    [.between (.ofNat 1) 0 (.ofNat 2) 0, .between (.ofNat 2) 0 (.ofNat 3) 0,
      .between (.ofNat 3) 0 (.ofNat 4) 0, .between (.ofNat 2) 1 (.ofNat 3) 1,
      .between (.ofNat 3) 1 (.ofNat 4) 1]

end ScriptGraph.Source
