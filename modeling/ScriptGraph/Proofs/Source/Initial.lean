import ScriptGraph.Proofs.Source.Variables

/-! # Initial values

The first use of a variable writes its initial value. Inside of a block only the declaration moves
to the top of the routine, and the value is assigned in the block. So a variable with an initial
value has been set before it is read, but the block in which it has been set may have ended.
-/

namespace ScriptGraph.Source

/-- The statement assigns a variable, or declares it with a value. -/
def Statement.sets (st : Statement) (x : String) : Bool :=
  match st with
  | .declare _ name value => name = x && value.isSome
  | st => st.assigned.contains x

/-- Wherever the variable may be declared first, it has an initial value. -/
def Setting.Initialized (s : Setting) (x : String) : Prop :=
  ∀ v ∈ s.graph.nodes.toList, v.kind = Kind.var.name → s.variableName v = x →
    (s.props v).text "initialValue" ≠ ""

/-- An input that is wired to a variable is read, and gives the name of the variable. -/
def ReadsVariable (s : Setting) (es : List Event) (j : Nat) (x : String) : Prop :=
  ∃ v index, s.Wired v index x ∧ es[j]? = some (.read ⟨v.id, index⟩ (some x))

/-- A line sets the variable in a block that is still open at a later position. -/
def SetInScope (es : List Event) (j : Nat) (x : String) : Prop :=
  ∃ k < j, ∃ st, es[k]? = some (.write st) ∧ st.sets x ∧
    openBlocks (es.take k) <:+ openBlocks (es.take j)

instance (es : List Event) (j : Nat) (x : String) : Decidable (SetInScope es j x) :=
  decidable_of_iff (∃ k < j, (es[k]?.any fun | .write st => st.sets x | _ => false) ∧
    openBlocks (es.take k) <:+ openBlocks (es.take j)) <| by
      refine exists_congr fun k => and_congr_right fun _ => ?_
      constructor
      · rintro ⟨hw, ho⟩
        obtain ⟨e, he, hw⟩ := (Option.any_eq_true _ _).mp hw
        cases e with
        | write st => exact ⟨st, he, hw, ho⟩
        | _ => cases hw
      · rintro ⟨st, he, hw, ho⟩
        exact ⟨by rw [he]; exact hw, ho⟩

section

variable {s : Setting} {v : Node} {d : Draft} {x : String}

/-- A declaration with an initial value is a line that sets the variable. -/
theorem Setting.declaration_of_initial (s : Setting) {v : Node}
    (hi : (s.props v).text "initialValue" ≠ "") (assigned : Option String) (depth : Nat) :
    ∃ st, s.declaration v assigned depth = [.declare (s.variableName v), .write st] ∧
      st.sets (s.variableName v) := by
  obtain ⟨value, hv⟩ : ∃ value, s.declaredValue v assigned = some value := by
    unfold declaredValue
    cases assigned with
    | none => exact ⟨_, by simp [hi]; rfl⟩
    | some value => exact ⟨value, rfl⟩
  unfold declaration
  rw [hv]
  split
  · exact ⟨_, rfl, by simp [Statement.sets, Statement.assigned]⟩
  · exact ⟨_, rfl, by simp [Statement.sets]⟩

/-- The line behind the declaration of a variable with an initial value sets the variable. -/
theorem Orderly.set_at_declaration (ho : Orderly s d) (hi : s.Initialized x) {i : Nat}
    (h : d.log.toList[i]? = some (.declare x)) :
    ∃ st, d.log.toList[i + 1]? = some (.write st) ∧ st.sets x ∧
      (openBlocks (d.log.toList.take i) = [] ∨ x ∈ d.hoisted) := by
  have declared : x ∈ variablesOf d.log.toList := mem_variablesOf.mpr (List.mem_of_getElem? h)
  obtain ⟨v, hv, assigned, hk, rfl, ⟨after, hd⟩, hh⟩ :=
    (ho.declares.placed x declared).declaration_at ho.declares.once h
  obtain ⟨st, hst, hsets⟩ := s.declaration_of_initial (hi v hv hk rfl) assigned
    (routineDepth + (openBlocks (d.log.toList.take i)).length)
  refine ⟨st, ?_, hsets, ?_⟩
  · rw [← List.getElem?_drop, ← hd, hst]
    rfl
  · by_cases hb : openBlocks (d.log.toList.take i) = []
    · exact .inl hb
    · exact .inr (hh.mpr hb)

theorem Orderly.set_before_read (ho : Orderly s d) (hi : s.Initialized x) {j : Nat}
    (h : ReadsVariable s d.log.toList j x) :
    ∃ k < j, ∃ st, d.log.toList[k]? = some (.write st) ∧ st.sets x ∧
      [.declare x] <:+ d.log.toList.take k ∧
      (openBlocks (d.log.toList.take k) <:+ openBlocks (d.log.toList.take j) ∨ x ∈ d.hoisted) := by
  obtain ⟨v, index, hx, hj⟩ := h
  obtain ⟨i, hij, hdecl⟩ := exists_declare_of_mem_take ((ho.used j _ hj).read rfl hx).2
  obtain ⟨st, hnext, hsets, hblocks⟩ := ho.set_at_declaration hi hdecl
  have later : i + 1 < j := by
    rcases Nat.lt_or_eq_of_le hij with hlt | rfl
    · exact hlt
    · rw [hnext] at hj
      cases hj
  have before : d.log.toList.take (i + 1) = d.log.toList.take i ++ [.declare x] := by
    rw [List.take_add_one, hdecl]
    rfl
  refine ⟨i + 1, later, st, hnext, hsets, before ▸ List.suffix_append _ _, ?_⟩
  rw [before, openBlocks_append]
  rcases hblocks with hb | hm
  · left
    rw [hb]
    exact List.nil_suffix
  · exact .inr hm

/-- Whether an input is wired to a variable and read at some place of a log. -/
def readsVariable (s : Setting) (es : List Event) (j : Nat) (v : Node) (index : Nat)
    (x : String) : Bool :=
  s.Wired v index x && es[j]?.any fun
    | .read input (some expression) => input = ⟨v.id, index⟩ && expression = x
    | _ => false

theorem readsVariable_of_wired {es : List Event} {j index : Nat}
    (h : readsVariable s es j v index x) : ReadsVariable s es j x := by
  simp only [readsVariable, Bool.and_eq_true, Option.any_eq_true, decide_eq_true_eq] at h
  obtain ⟨hw, e, hj, he⟩ := h
  refine ⟨v, index, hw, ?_⟩
  split at he
  next input expression =>
    simp only [Bool.and_eq_true, decide_eq_true_eq] at he
    rw [hj, he.1, he.2]
  next => cases he

end

/-- Before an input that is wired to a variable with an initial value gives the variable, the line
that belongs to the declaration of the variable has set it. The block of that line is still open,
unless the declaration has been hoisted out of it. -/
theorem variable_set_before_read (options : Options) (registry : Registry) (graph : Graph)
    {j : Nat} {x : String} (hi : ((withRegistry options registry).setting graph).Initialized x)
    (h : ReadsVariable ((withRegistry options registry).setting graph)
      ((withRegistry options registry).draft graph).log.toList j x) :
    let d := (withRegistry options registry).draft graph
    ∃ k < j, ∃ st, d.log.toList[k]? = some (.write st) ∧ st.sets x ∧
      [.declare x] <:+ d.log.toList.take k ∧
      (openBlocks (d.log.toList.take k) <:+ openBlocks (d.log.toList.take j) ∨ x ∈ d.hoisted) :=
  (orderly_draft options registry graph).set_before_read hi h

/-- A variable that is set on one side of a condition, and a line behind the condition that shows
it. -/
def behindBranch : Graph :=
  .ofLists
    [{ id := .ofNat 1, kind := Kind.onStart.name }, { id := .ofNat 2, kind := Kind.condition.name },
      { id := .ofNat 3, kind := Kind.var.name
        properties := [("name", .string "x"), ("initialValue", .string "a")] },
      { id := .ofNat 4, kind := Kind.log.name }]
    [.between (.ofNat 1) 0 (.ofNat 2) 0, .between (.ofNat 1) 0 (.ofNat 4) 0,
      .between (.ofNat 2) 0 (.ofNat 3) 0, .between (.ofNat 3) 1 (.ofNat 4) 1]

theorem behindBranch_initialized :
    ((builtin .minimal).setting behindBranch).Initialized "x" := by
  unfold Setting.Initialized
  decide +kernel

theorem behindBranch_reads :
    ReadsVariable ((builtin .minimal).setting behindBranch)
      ((builtin .minimal).draft behindBranch).log.toList 15 "x" :=
  have reads : readsVariable ((builtin .minimal).setting behindBranch)
      ((builtin .minimal).draft behindBranch).log.toList 15
      { id := .ofNat 4, kind := Kind.log.name } 1 "x" := by decide +kernel
  readsVariable_of_wired reads

/-- The only line that sets the variable stands in a block that has ended. -/
theorem behindBranch_not_set_in_scope :
    ¬ ∀ (options : Options) (graph : Graph) (x : String) (j : Nat),
      ((builtin options).setting graph).Initialized x →
        ReadsVariable ((builtin options).setting graph)
          ((builtin options).draft graph).log.toList j x →
        SetInScope ((builtin options).draft graph).log.toList j x := by
  intro h
  have within := h .minimal behindBranch "x" 15 behindBranch_initialized behindBranch_reads
  revert within
  decide +kernel

theorem behindBranch_set_before_read :
    ((builtin .minimal).setting behindBranch).Initialized "x" ∧
      ReadsVariable ((builtin .minimal).setting behindBranch)
        ((builtin .minimal).draft behindBranch).log.toList 15 "x" ∧
      let d := (builtin .minimal).draft behindBranch
      ∃ k < 15, ∃ st, d.log.toList[k]? = some (.write st) ∧ st.sets "x" ∧
        [.declare "x"] <:+ d.log.toList.take k ∧
        (openBlocks (d.log.toList.take k) <:+ openBlocks (d.log.toList.take 15) ∨
          "x" ∈ d.hoisted) :=
  ⟨behindBranch_initialized, behindBranch_reads,
    variable_set_before_read .minimal .builtin behindBranch behindBranch_initialized
      behindBranch_reads⟩

end ScriptGraph.Source
