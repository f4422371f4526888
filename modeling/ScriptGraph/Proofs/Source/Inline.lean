import ScriptGraph.Proofs.Source.Variables

/-! # Inlined expressions

The result of arithmetic is not bound to a name: its text is written wherever it is read, and stands
for the values that its variables have there. A variable in it has been declared before the text is
recorded, so that from then on only nodes of the variable that read a value assign it.
-/

namespace ScriptGraph

namespace Source

variable {s : Setting} {v m : Node} {d d' : Draft} {es : List Event} {x : String}

/-- What is recorded is the result of a node that control has come to, and that has read its
operands. -/
def Earned (s : Setting) (before : List Event) (e : Event) : Prop :=
  ∀ output expression, e = .record output expression →
    ∃ v, s.Reachable v ∧ v.id = output.node ∧ v.kind ≠ Kind.onStart.name ∧
      (v.kind = Kind.mathOperation.name → ∀ index ∈ [1, 2],
        ∃ expression, .read ⟨v.id, index⟩ expression ∈ before)

theorem Act.earned (h : Act s d d') (he : Each (Earned s) d.log.toList) :
    Each (Earned s) d'.log.toList := by
  refine h.each he fun before e news output expression hrecord => ?_
  cases news with
  | record port expression hv due =>
    obtain ⟨rfl, -⟩ := Event.record.inj hrecord
    rw [List.append_nil]
    exact ⟨_, hv, rfl, due.start, due.operands⟩
  | prose hp =>
    subst hrecord
    cases hp
  | _ => cases hrecord

theorem earned_draft (options : Options) (registry : Registry) (graph : Graph) :
    Each (Earned ((withRegistry options registry).setting graph))
      ((withRegistry options registry).draft graph).log.toList := by
  refine holds_of_acts (I := fun d => Each _ d.log.toList) (acts_draft options registry graph) ?_
    fun _ _ h he => h.earned he
  intro i e he
  simp [Generator.start] at he

/-! ### Reads of results -/

/-- The result of arithmetic with a variable is recorded, and read at a later place. -/
def ReadsComputed (s : Setting) (es : List Event) (i j : Nat) (x : String) : Prop :=
  ∃ m port reader input expression, m.kind = Kind.mathOperation.name ∧
    (s.Wired m 1 x ∨ s.Wired m 2 x) ∧ s.producer? reader input = some (m, port) ∧ i < j ∧
    es[i]? = some (.record ⟨m.id, port⟩ expression) ∧
    es[j]? = some (.read ⟨reader.id, input⟩ (some expression))

/-- A line assigns the variable. -/
def Assigns (es : List Event) (k : Nat) (x : String) : Prop :=
  ∃ st, es[k]? = some (.write st) ∧ x ∈ st.assigned

/-- A node of the variable reads a value for it other than the variable itself. -/
def ReadsAnew (s : Setting) (es : List Event) (k : Nat) (x : String) : Prop :=
  ∃ u value, s.Reachable u ∧ u.kind = Kind.var.name ∧ s.variableName u = x ∧ value ≠ x ∧
    es[k]? = some (.read ⟨u.id, 1⟩ (some value))

/-- A variable has been declared before the result of arithmetic with it is recorded. -/
theorem declared_before_record (hr : s.registry = .builtin) (hu : Each (Used s) es)
    (he : Each (Earned s) es) {i port : Nat} {expression : String}
    (hm : s.graph.findNode m.id = some m) (hk : m.kind = Kind.mathOperation.name)
    (hi : es[i]? = some (.record ⟨m.id, port⟩ expression)) {index : Nat} (hindex : index ∈ [1, 2])
    (hx : s.Wired m index x) : ∃ l < i, es[l]? = some (.declare x) := by
  obtain ⟨v, hv, hid, hstart, reads⟩ := he i _ hi _ _ rfl
  obtain rfl : v = m := by
    rcases hv.entry_or_found with hentry | hfound
    · exact absurd (Workspace.kind_of_entry hr hentry) hstart
    · rw [hid] at hfound
      exact Option.some.inj (hfound.symm.trans hm)
  obtain ⟨value, hread⟩ := reads hk index hindex
  obtain ⟨l, hl⟩ := List.mem_iff_getElem?.mp hread
  rw [List.getElem?_take] at hl
  split at hl
  next hli =>
    obtain ⟨l', hl', hdecl⟩ := exists_declare_of_mem_take ((hu l _ hl).read rfl hx).2
    exact ⟨l', hl'.trans hli, hdecl⟩
  next => cases hl

instance (es : List Event) (k : Nat) (x : String) : Decidable (Assigns es k x) :=
  decidable_of_iff (es[k]?.any fun | .write st => st.assigned.contains x | _ => false) <| by
    rw [Option.any_eq_true]
    constructor
    · rintro ⟨e, he, hx⟩
      cases e with
      | write st => exact ⟨st, he, by simpa using hx⟩
      | _ => cases hx
    · rintro ⟨st, he, hx⟩
      exact ⟨_, he, by simpa using hx⟩

/-- Whether an input is wired to the result of arithmetic with a variable, and the result is
recorded and read at certain places of a log. -/
def readsComputed (s : Setting) (es : List Event) (i j : Nat) (reader : Node) (input : Nat)
    (x : String) : Bool :=
  i < j && (s.producer? reader input).any fun (m, port) =>
    m.kind = Kind.mathOperation.name && (s.Wired m 1 x || s.Wired m 2 x) && es[j]?.any fun
      | .read place (some expression) => place = ⟨reader.id, input⟩ && es[i]?.any fun
        | .record output recorded => output = ⟨m.id, port⟩ && recorded = expression
        | _ => false
      | _ => false

theorem readsComputed_of_any {i j input : Nat} {reader : Node}
    (h : readsComputed s es i j reader input x) : ReadsComputed s es i j x := by
  simp only [readsComputed, Bool.and_eq_true, Bool.or_eq_true, Option.any_eq_true,
    decide_eq_true_eq] at h
  obtain ⟨hij, ⟨m, port⟩, hp, ⟨hk, hx⟩, e, hj, he⟩ := h
  split at he
  next place expression =>
    simp only [Bool.and_eq_true, Option.any_eq_true, decide_eq_true_eq] at he
    obtain ⟨rfl, e', hi, he'⟩ := he
    split at he'
    next output recorded =>
      simp only [Bool.and_eq_true, decide_eq_true_eq] at he'
      obtain ⟨rfl, rfl⟩ := he'
      exact ⟨m, port, reader, input, _, hk, hx, hp, hij, hi, hj⟩
    next => cases he'
  next => cases he

/-- A sum with a variable, a node that gives the variable another value, and a line that shows the
sum. -/
def changedOperand : Graph :=
  .ofLists
    [{ id := .ofNat 1, kind := Kind.onStart.name },
      { id := .ofNat 2, kind := Kind.mathOperation.name },
      { id := .ofNat 3, kind := Kind.var.name
        properties := [("name", .string "x"), ("type", .string "number"),
          ("initialValue", .string "1")] },
      { id := .ofNat 4, kind := Kind.log.name },
      { id := .ofNat 5, kind := Kind.constant.name
        properties := [("type", .string "number"), ("value", .string "5")] }]
    [.between (.ofNat 1) 0 (.ofNat 2) 0, .between (.ofNat 2) 0 (.ofNat 3) 0,
      .between (.ofNat 3) 0 (.ofNat 4) 0, .between (.ofNat 3) 1 (.ofNat 2) 1,
      .between (.ofNat 5) 0 (.ofNat 2) 2, .between (.ofNat 5) 0 (.ofNat 3) 1,
      .between (.ofNat 2) 1 (.ofNat 4) 1]

theorem changedOperand_reads :
    ReadsComputed ((builtin .minimal).setting changedOperand)
      ((builtin .minimal).draft changedOperand).log.toList 6 11 "x" :=
  have reads : readsComputed ((builtin .minimal).setting changedOperand)
      ((builtin .minimal).draft changedOperand).log.toList 6 11
      { id := .ofNat 4, kind := Kind.log.name } 1 "x" := by decide +kernel
  readsComputed_of_any reads

end Source

end ScriptGraph
