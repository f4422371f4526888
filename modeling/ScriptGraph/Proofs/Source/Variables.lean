import ScriptGraph.Proofs.Source.Act

/-! # Declarations of variables

A pass declares each variable of a graph once: in place where no block is open, and in the line that
opens the body of the routine where the variable is first met inside of a block. All reads and all
assignments of the variable come later.
-/

namespace ScriptGraph.Source

/-- The names of the variables of a graph. -/
def Setting.variableNames (s : Setting) : List String :=
  ((s.graph.nodesOfKind Kind.var.name).map s.variableName).filter (· ≠ "")

/-- The variable that an event declares. -/
def Event.variable? : Event → Option String
  | .declare name => some name
  | _ => none

/-- The variables that a log declares, in their order. -/
def variablesOf (es : List Event) : List String :=
  es.filterMap Event.variable?

def Event.statement? : Event → Option Statement
  | .write statement => some statement
  | _ => none

theorem write_of_statement? {es : List Event} {i : Nat} {st : Statement}
    (h : es[i]?.bind Event.statement? = some st) : es[i]? = some (.write st) := by
  obtain ⟨e, he, hst⟩ := Option.bind_eq_some_iff.mp h
  rw [he]
  cases e with
  | write => exact congrArg _ (congrArg _ (Option.some.inj hst))
  | _ => cases hst

/-- The names that the lines of a log declare. -/
def declaredIn (es : List Event) : List String :=
  (es.filterMap Event.statement?).flatMap Statement.declared

/-- The lines of the body of the routine: the declaration that opens it, and what has been
written. -/
def Draft.statements (d : Draft) : List Statement :=
  (if d.hoisted.isEmpty then [] else [.declareAll d.hoisted]) ++
    d.log.toList.filterMap Event.statement?

/-- The names that the lines of the body declare. -/
def Draft.declarations (d : Draft) : List String :=
  d.statements.flatMap Statement.declared

@[simp] theorem variablesOf_append (es es' : List Event) :
    variablesOf (es ++ es') = variablesOf es ++ variablesOf es' :=
  List.filterMap_append

@[simp] theorem declaredIn_append (es es' : List Event) :
    declaredIn (es ++ es') = declaredIn es ++ declaredIn es' := by
  simp [declaredIn]

theorem Draft.declarations_eq (d : Draft) :
    d.declarations = d.hoisted ++ declaredIn d.log.toList := by
  unfold declarations statements declaredIn
  cases d.hoisted <;> simp [Statement.declared]

section

variable {s : Setting} {v : Node} {d d' : Draft} {es : List Event} {x : String}

theorem Setting.mem_variableNames : x ∈ s.variableNames ↔
    x ≠ "" ∧ ∃ v ∈ s.graph.nodes.toList, v.kind = Kind.var.name ∧ s.variableName v = x := by
  simp only [variableNames, Graph.nodesOfKind, List.mem_filter, List.mem_map, decide_eq_true_eq]
  constructor
  · rintro ⟨⟨v, ⟨hv, hk⟩, rfl⟩, hn⟩
    exact ⟨hn, v, hv, hk, rfl⟩
  · rintro ⟨hn, v, hv, hk, rfl⟩
    exact ⟨⟨v, ⟨hv, hk⟩, rfl⟩, hn⟩

/-! ### Acts and declarations -/

theorem Prose.variablesOf_eq {temporaries : List String} (h : Prose temporaries es) :
    variablesOf es = [] := by
  refine List.filterMap_eq_nil_iff.mpr fun e he => ?_
  have prose := h.isProse e he
  cases e with
  | write | blank | indent | dedent => rfl
  | _ => cases prose

theorem Prose.declaredIn_eq {temporaries : List String} (h : Prose temporaries es) :
    declaredIn es = [] := by
  refine List.flatMap_eq_nil_iff.mpr fun st hst => ?_
  obtain ⟨e, he, hst⟩ := List.mem_filterMap.mp hst
  have prose := h.isProse e he
  cases e with
  | write => exact Option.some.inj hst ▸ prose.1
  | _ => cases hst

theorem Setting.variablesOf_declaration (s : Setting) (v : Node) (assigned : Option String)
    (depth : Nat) : variablesOf (s.declaration v assigned depth) = [s.variableName v] := by
  unfold declaration
  split
  · cases s.declaredValue v assigned <;> rfl
  · rfl

theorem Setting.declaredIn_declaration (s : Setting) (v : Node) (assigned : Option String)
    (depth : Nat) : declaredIn (s.declaration v assigned depth) =
      if routineDepth < depth then [] else [s.variableName v] := by
  unfold declaration
  split
  · cases s.declaredValue v assigned <;> rfl
  · rfl

/-- A pass goes on without declaring a variable. -/
structure Idle (d d' : Draft) : Prop where
  hoisted : d'.hoisted = d.hoisted
  declared : d'.names.declared = d.names.declared
  log : ∃ es, d'.log.toList = d.log.toList ++ es ∧ variablesOf es = [] ∧
    declaredIn es ⊆ d.names.temporaries

/-- An act declares a variable of the graph that has not been declared, or none. -/
theorem Act.declare_or_idle (h : Act s d d') :
    (∃ v ∈ s.graph.nodes.toList, ∃ assigned, v.kind = Kind.var.name ∧ s.variableName v ≠ "" ∧
      d.names.isDeclared (s.variableName v) = false ∧ d' = s.declared v assigned d) ∨
      Idle d d' := by
  cases h with
  | declare assigned hv hk hn hd => exact .inl ⟨_, hv, assigned, hk, hn, hd, rfl⟩
  | prose hp =>
    refine .inr ⟨rfl, rfl, _, d.log_logged _, hp.variablesOf_eq, ?_⟩
    rw [hp.declaredIn_eq]
    exact List.nil_subset _
  | @bind st hd =>
    refine .inr ⟨rfl, rfl, _, d.log_logged [.write st], rfl, ?_⟩
    simpa [declaredIn, Event.statement?] using hd.taken
  | @fresh base => exact .inr ⟨rfl, rfl, _, log_freshName base d, rfl, List.nil_subset _⟩
  | record port expression =>
    exact .inr ⟨rfl, rfl, _, log_record _ port expression d, rfl, List.nil_subset _⟩
  | _ => exact .inr ⟨rfl, rfl, _, d.log_logged [_], rfl, List.nil_subset _⟩

/-- Variables and temporaries have different names. -/
structure Apart (s : Setting) (d : Draft) : Prop where
  reserved : d.names.reserved = s.variableNames
  temporaries : ∀ x ∈ d.names.temporaries, x ∉ s.variableNames

theorem Apart.act (ha : Apart s d) (h : Act s d d') : Apart s d' := by
  cases h with
  | @fresh base =>
    refine ⟨ha.reserved, fun x hx => ?_⟩
    rcases List.mem_cons.mp (show x ∈ (d.names.unique base).1 :: d.names.temporaries from hx) with
      rfl | hx
    · have free := d.names.isTaken_unique base
      simp only [Names.isTaken, Bool.or_eq_false_iff, List.contains_eq_mem,
        decide_eq_false_iff_not] at free
      exact ha.reserved ▸ free.1.2
    · exact ha.temporaries x hx
  | _ => exact ⟨ha.reserved, ha.temporaries⟩

/-- Where a variable has been declared: at a depth that goes with the blocks that were open, and
hoisted if there were any. -/
def Placed (s : Setting) (d : Draft) (x : String) : Prop :=
  ∃ before after, ∃ v ∈ s.graph.nodes.toList, ∃ assigned, v.kind = Kind.var.name ∧
    s.variableName v = x ∧ d.log.toList = before ++
      s.declaration v assigned (routineDepth + (openBlocks before).length) ++ after ∧
    (x ∈ d.hoisted ↔ openBlocks before ≠ [])

theorem Placed.later (hp : Placed s d x) (hl : d.log.toList <+: d'.log.toList)
    (hh : x ∈ d'.hoisted ↔ x ∈ d.hoisted) : Placed s d' x := by
  obtain ⟨before, after, v, hv, assigned, hk, hn, he, hb⟩ := hp
  obtain ⟨es, hl⟩ := hl
  exact ⟨before, after ++ es, v, hv, assigned, hk, hn, by rw [← hl, he, List.append_assoc],
    hh.trans hb⟩

/-- What is known of the variables that have been declared. -/
structure Declares (s : Setting) (d : Draft) : Prop where
  known (x : String) : d.names.isDeclared x = true ↔ x ∈ variablesOf d.log.toList
  named : variablesOf d.log.toList ⊆ s.variableNames
  once : (variablesOf d.log.toList).Nodup
  hoisted : d.hoisted ⊆ variablesOf d.log.toList
  lines : ∀ x ∈ s.variableNames, d.declarations.count x = (variablesOf d.log.toList).count x
  placed : ∀ x ∈ variablesOf d.log.toList, Placed s d x

theorem Declares.idle (hd : Declares s d) (ha : Apart s d) (h : Idle d d') : Declares s d' := by
  obtain ⟨hh, hn, es, he, hv, ht⟩ := h
  have same : variablesOf d'.log.toList = variablesOf d.log.toList := by
    rw [he, variablesOf_append, hv, List.append_nil]
  have known (x : String) : d'.names.isDeclared x = d.names.isDeclared x := by
    rw [Names.isDeclared, hn]
    rfl
  refine ⟨fun x => ?_, same ▸ hd.named, same ▸ hd.once, ?_, fun x hx => ?_, fun x hx => ?_⟩
  · rw [known, same]
    exact hd.known x
  · rw [hh, same]
    exact hd.hoisted
  · have other : x ∉ declaredIn es := fun hm => ha.temporaries x (ht hm) hx
    rw [same, ← hd.lines x hx, Draft.declarations_eq, Draft.declarations_eq, hh, he,
      declaredIn_append, ← List.append_assoc, List.count_append, List.count_eq_zero.mpr other]
    rfl
  · rw [same] at hx
    exact (hd.placed x hx).later (he ▸ List.prefix_append _ _) (by rw [hh])

theorem Declares.declare (hd : Declares s d) (hb : d.Balanced) (hv : v ∈ s.graph.nodes.toList)
    (hk : v.kind = Kind.var.name) (hn : s.variableName v ≠ "")
    (hu : d.names.isDeclared (s.variableName v) = false) (assigned : Option String) :
    Declares s (s.declared v assigned d) := by
  have new : s.variableName v ∉ variablesOf d.log.toList := by
    rw [← hd.known, hu]
    exact Bool.false_ne_true
  have more : variablesOf (s.declared v assigned d).log.toList =
      variablesOf d.log.toList ++ [s.variableName v] := by
    rw [s.log_declared, variablesOf_append, s.variablesOf_declaration]
  have hoisted : (s.declared v assigned d).hoisted =
      d.hoisted ++ if routineDepth < d.depth then [s.variableName v] else [] := rfl
  refine ⟨fun x => ?known, ?named, ?once, ?hoisted, fun x hx => ?lines, fun x hx => ?placed⟩
  case known =>
    rw [s.isDeclared_declared, more, List.mem_append, ← hd.known, List.mem_singleton]
    simp [or_comm]
  case named =>
    rw [more]
    refine List.append_subset.mpr ⟨hd.named, ?_⟩
    simpa using Setting.mem_variableNames.mpr ⟨hn, v, hv, hk, rfl⟩
  case once =>
    rw [more]
    exact List.nodup_append.mpr ⟨hd.once, List.nodup_singleton _, by grind⟩
  case hoisted =>
    rw [more, hoisted]
    refine List.append_subset.mpr ⟨List.subset_append_of_subset_left _ hd.hoisted, ?_⟩
    split
    · exact List.subset_append_right _ _
    · exact List.nil_subset _
  case lines =>
    have old := hd.lines x hx
    rw [Draft.declarations_eq, List.count_append] at old
    rw [more, Draft.declarations_eq, hoisted, s.log_declared, declaredIn_append,
      s.declaredIn_declaration]
    split <;> simp only [List.count_append, List.count_nil, ← old] <;> omega
  case placed =>
    rw [more, List.mem_append, List.mem_singleton] at hx
    rcases hx with hx | rfl
    · refine (hd.placed x hx).later ⟨_, (s.log_declared _ _ _).symm⟩ ?_
      have other : x ≠ s.variableName v := by
        rintro rfl
        exact new hx
      rw [hoisted, List.mem_append]
      split <;> simp [other]
    · refine ⟨d.log.toList, [], v, hv, assigned, hk, rfl, ?_, ?_⟩
      · rw [← hb, List.append_nil, s.log_declared]
      · have unhoisted : s.variableName v ∉ d.hoisted := fun hm => new (hd.hoisted hm)
        have blocks : routineDepth < d.depth ↔ openBlocks d.log.toList ≠ [] := by
          rw [hb, ← List.length_pos_iff]
          omega
        rw [hoisted, ← blocks]
        split <;> simp_all

/-! ### Reads and assignments -/

/-- An input is wired to a variable with a name. -/
def Setting.Wired (s : Setting) (v : Node) (index : Nat) (x : String) : Prop :=
  ∃ producer output, s.producer? v index = some (producer, output) ∧
    producer.kind = Kind.var.name ∧ s.variableName producer = x ∧ x ≠ ""

instance (s : Setting) (v : Node) (index : Nat) (x : String) : Decidable (s.Wired v index x) :=
  decidable_of_iff ((s.producer? v index).any fun source =>
    source.1.kind = Kind.var.name ∧ s.variableName source.1 = x ∧ x ≠ "") <| by
      simp [Setting.Wired, Option.any_eq_true]

/-- The names that an event gives another value. -/
def Event.assigned : Event → List String
  | .write statement => statement.assigned
  | _ => []

/-- How a variable comes to be assigned: by its declaration inside of a block, or by a node that has
read another value for it. -/
inductive Assigned (s : Setting) (before : List Event) (x : String) : Prop where
  | initially : [.declare x] <:+ before → Assigned s before x
  | anew {u : Node} {value : String} : s.Reachable u → u.kind = Kind.var.name →
      s.variableName u = x → value ≠ x → [.read ⟨u.id, 1⟩ (some value)] <:+ before →
      x ∈ variablesOf before → Assigned s before x

/-- A variable that is read or assigned has been declared. -/
structure Used (s : Setting) (before : List Event) (e : Event) : Prop where
  read {v : Node} {index : Nat} {expression : Option String} {x : String}
    (he : e = .read ⟨v.id, index⟩ expression) (hx : s.Wired v index x) :
    expression = some x ∧ x ∈ variablesOf before
  assign {x : String} (he : x ∈ e.assigned) (hx : x ∈ s.variableNames) : Assigned s before x

theorem mem_variablesOf : x ∈ variablesOf es ↔ .declare x ∈ es := by
  unfold variablesOf
  rw [List.mem_filterMap]
  constructor
  · rintro ⟨e, he, hx⟩
    cases e <;> cases hx
    exact he
  · exact fun h => ⟨_, h, rfl⟩

theorem Assigned.declared {before : List Event} (h : Assigned s before x) :
    x ∈ variablesOf before := by
  cases h with
  | initially h => exact mem_variablesOf.mpr (h.subset (List.mem_singleton_self _))
  | anew _ _ _ _ _ h => exact h

theorem Setting.Wired.mem_variableNames {index : Nat} (h : s.Wired v index x) :
    x ∈ s.variableNames := by
  obtain ⟨producer, _, hp, hk, rfl, hn⟩ := h
  exact Setting.mem_variableNames.mpr ⟨hn, producer, s.mem_nodes_of_producer? hp, hk, rfl⟩

theorem Used.of_read {before : List Event} {index : Nat}
    (hk : ∀ x, d.names.isDeclared x = true → x ∈ variablesOf before)
    (hu : s.undeclared? d.names v index = none) :
    Used s before (.read ⟨v.id, index⟩ (s.resolveInput (s.outputSource d) v index)) where
  read {u index' expression x} he hx := by
    obtain ⟨hin, rfl⟩ := Event.read.inj he
    obtain ⟨hid, rfl⟩ := PortRef.mk.inj hin
    obtain ⟨producer, output, hp, hkind, rfl, hn⟩ := hx
    have hp : s.producer? v index = some (producer, output) := by
      rw [← hp]
      unfold Workspace.producer?
      rw [hid]
    refine ⟨?_, hk _ ?_⟩
    · simp only [Workspace.resolveInput, hp, hkind, if_true, Setting.outputSource]
      exact Props.nonEmpty?_eq_some_iff.mpr ⟨rfl, hn⟩
    · by_contra hd
      have : s.undeclared? d.names v index = some producer :=
        Setting.undeclared?_eq_some_iff.mpr ⟨⟨output, hp⟩, hkind, hn, by simpa using hd⟩
      rw [hu] at this
      cases this
  assign he := absurd he List.not_mem_nil

theorem Act.used (h : Act s d d') (hd : Declares s d) (ha : Apart s d)
    (hu : Each (Used s) d.log.toList) : Each (Used s) d'.log.toList := by
  refine h.each hu fun before e news => ?_
  have quiet {e : Event} (hr : ∀ input expression, e ≠ .read input expression)
      (he : ∀ x ∈ e.assigned, x ∉ s.variableNames) : Used s (d.log.toList ++ before) e :=
    ⟨fun h => absurd h (hr _ _), fun h hx => absurd hx (he _ h)⟩
  cases news with
  | prose hp hc =>
    cases e with
    | write st => exact quiet nofun fun x hx => ha.temporaries x (hc.taken (hp.2 hx))
    | blank | indent | dedent => exact quiet nofun fun _ h => absurd h List.not_mem_nil
    | _ => cases hp
  | @bind st _ hst =>
    refine quiet nofun fun x hx => absurd hx ?_
    rw [show (Event.write st).assigned = [] from hst]
    exact List.not_mem_nil
  | node | fresh | declare | record => exact quiet nofun fun _ h => absurd h List.not_mem_nil
  | @initial v st hst =>
    refine ⟨nofun, fun {x} he _ => .initially ?_⟩
    have : x ∈ st.declared ++ st.assigned := List.mem_append_right _ he
    rw [hst, List.mem_singleton] at this
    rw [this]
    exact List.suffix_append _ _
  | read index _ hn =>
    rw [List.append_nil]
    exact .of_read (fun x hx => (hd.known x).mp hx) hn
  | assign hv hk hdecl hne hr =>
    rw [List.append_nil]
    refine ⟨nofun, fun {x} he _ => ?_⟩
    obtain rfl : x = _ := List.mem_singleton.mp he
    exact .anew hv hk rfl hne hr ((hd.known _).mp hdecl)

/-! ### Whole passes -/

/-- What is true of variables at every moment of a pass. -/
structure Orderly (s : Setting) (d : Draft) : Prop where
  balanced : d.Balanced
  apart : Apart s d
  declares : Declares s d
  used : Each (Used s) d.log.toList

theorem Orderly.act (ho : Orderly s d) (h : Act s d d') : Orderly s d' where
  balanced := h.balanced ho.balanced
  apart := ho.apart.act h
  declares := by
    obtain ⟨v, hv, assigned, hk, hn, hu, rfl⟩ | idle := h.declare_or_idle
    · exact ho.declares.declare ho.balanced hv hk hn hu assigned
    · exact ho.declares.idle ho.apart idle
  used := h.used ho.declares ho.apart ho.used

theorem orderly_start (g : Generator) (graph : Graph) :
    Orderly (g.setting graph) (g.start graph) where
  balanced := rfl
  apart := ⟨rfl, fun _ h => absurd h List.not_mem_nil⟩
  declares := {
    known _ := ⟨fun h => absurd h Bool.false_ne_true, fun h => absurd h List.not_mem_nil⟩
    named := List.nil_subset _
    once := List.nodup_nil
    hoisted := List.nil_subset _
    lines _ _ := rfl
    placed _ h := absurd h List.not_mem_nil }
  used i e he := by simp [Generator.start] at he

theorem orderly_draft (options : Options) (registry : Registry) (graph : Graph) :
    Orderly ((withRegistry options registry).setting graph)
      ((withRegistry options registry).draft graph) :=
  holds_of_acts (acts_draft options registry graph) (orderly_start _ graph) fun _ _ h ho => ho.act h

theorem exists_declare_of_mem_take {j : Nat} (h : x ∈ variablesOf (es.take j)) :
    ∃ i < j, es[i]? = some (.declare x) := by
  obtain ⟨i, hi⟩ := List.mem_iff_getElem?.mp (mem_variablesOf.mp h)
  rw [List.getElem?_take] at hi
  split at hi
  next hij => exact ⟨i, hij, hi⟩
  next => cases hi

theorem getElem?_of_suffix_take {e : Event} {k : Nat} (h : [e] <:+ es.take k)
    (hk : k ≤ es.length) : ∃ l, l + 1 = k ∧ es[l]? = some e := by
  obtain ⟨before, hb⟩ := h
  have length := congrArg List.length hb
  simp only [List.length_append, List.length_singleton, List.length_take, Nat.min_eq_left hk]
    at length
  refine ⟨before.length, length, ?_⟩
  have := congrArg (·[before.length]?) hb
  simpa [List.getElem?_take, ← length] using this.symm

/-- What is told of no two events is told of an event at one place only. -/
theorem index_unique {f : Event → Option String} (hn : (es.filterMap f).Nodup) {i j : Nat}
    {e e' : Event} (hi : es[i]? = some e) (hj : es[j]? = some e') (he : f e = some x)
    (he' : f e' = some x) : i = j := by
  have different := List.pairwise_iff_getElem.mp (List.pairwise_filterMap.mp hn)
  obtain ⟨hli, rfl⟩ := List.getElem?_eq_some_iff.mp hi
  obtain ⟨hlj, rfl⟩ := List.getElem?_eq_some_iff.mp hj
  rcases Nat.lt_trichotomy i j with hij | hij | hij
  · exact absurd rfl (different i j hli hlj hij x he x he')
  · exact hij
  · exact absurd rfl (different j i hlj hli hij x he' x he)

/-- A variable that is declared once is declared at one place. -/
theorem declare_index_unique (hn : (variablesOf es).Nodup) {i j : Nat}
    (hi : es[i]? = some (.declare x)) (hj : es[j]? = some (.declare x)) : i = j :=
  index_unique hn hi hj rfl rfl

/-- The position `i` of a log is where a variable is declared in place, with no block open. -/
def InPlace (es : List Event) (i : Nat) (x : String) : Prop :=
  openBlocks (es.take i) = [] ∧
    ∃ keyword value, es[i + 1]? = some (.write (.declare keyword x value))

/-- A pass declares every variable once, where it has to, and before the variable is used. -/
structure VariablesDeclared (s : Setting) (d : Draft) : Prop where
  named : variablesOf d.log.toList ⊆ s.variableNames
  once : (variablesOf d.log.toList).Nodup
  /-- The body of the routine has a declaration for every variable that has been declared, and no
  other. -/
  lines : ∀ x ∈ s.variableNames, d.declarations.count x = (variablesOf d.log.toList).count x
  /-- The declaration stands in place, or it is left to the line that opens the body. -/
  place (i : Nat) (x : String) (h : d.log.toList[i]? = some (.declare x)) :
    (InPlace d.log.toList i x ∧ x ∉ d.hoisted) ∨
      (openBlocks (d.log.toList.take i) ≠ [] ∧ x ∈ d.hoisted)
  hoisted : d.hoisted ⊆ variablesOf d.log.toList
  reads (j : Nat) (v : Node) (index : Nat) (expression : Option String) (x : String)
    (h : d.log.toList[j]? = some (.read ⟨v.id, index⟩ expression)) (hx : s.Wired v index x) :
    expression = some x ∧ ∃ i < j, d.log.toList[i]? = some (.declare x)
  assignments (j : Nat) (st : Statement) (x : String)
    (h : d.log.toList[j]? = some (.write st)) (hst : x ∈ st.assigned)
    (hx : x ∈ s.variableNames) : ∃ i < j, d.log.toList[i]? = some (.declare x)

/-- The declaration of a variable is at the place where it has been declared. -/
theorem Placed.declaration_at (hp : Placed s d x) (hn : (variablesOf d.log.toList).Nodup) {i : Nat}
    (h : d.log.toList[i]? = some (.declare x)) :
    ∃ v ∈ s.graph.nodes.toList, ∃ assigned, v.kind = Kind.var.name ∧ s.variableName v = x ∧
      s.declaration v assigned (routineDepth + (openBlocks (d.log.toList.take i)).length) <+:
        d.log.toList.drop i ∧ (x ∈ d.hoisted ↔ openBlocks (d.log.toList.take i) ≠ []) := by
  obtain ⟨before, after, v, hv, assigned, hk, rfl, he, hh⟩ := hp
  have here : d.log.toList[before.length]? = some (.declare (s.variableName v)) := by
    rw [he, List.append_assoc, List.getElem?_append_right (Nat.le_refl _), Nat.sub_self]
    rfl
  obtain rfl := declare_index_unique hn h here
  have taken : d.log.toList.take before.length = before := by
    rw [he, List.append_assoc, List.take_left]
  have left : d.log.toList.drop before.length =
      s.declaration v assigned (routineDepth + (openBlocks before).length) ++ after := by
    rw [he, List.append_assoc, List.drop_left]
  refine ⟨v, hv, assigned, hk, rfl, ?_, ?_⟩
  · rw [taken, left]
    exact List.prefix_append _ _
  · rw [taken]
    exact hh

theorem Orderly.variablesDeclared (ho : Orderly s d) : VariablesDeclared s d where
  named := ho.declares.named
  once := ho.declares.once
  lines := ho.declares.lines
  hoisted := ho.declares.hoisted
  place i x h := by
    have hx : x ∈ variablesOf d.log.toList := mem_variablesOf.mpr (List.mem_of_getElem? h)
    obtain ⟨v, -, assigned, -, rfl, hd, hh⟩ :=
      (ho.declares.placed x hx).declaration_at ho.declares.once h
    by_cases hb : openBlocks (d.log.toList.take i) = []
    · refine .inl ⟨⟨hb, s.declaredKeyword v assigned, s.declaredValue v assigned, ?_⟩, ?_⟩
      · obtain ⟨after, hd⟩ := hd
        rw [← List.getElem?_drop, ← hd, hb]
        rfl
      · exact fun hm => hh.mp hm hb
    · exact .inr ⟨hb, hh.mpr hb⟩
  reads j v index expression x h hx := by
    obtain ⟨he, hm⟩ := (ho.used j _ h).read rfl hx
    exact ⟨he, exists_declare_of_mem_take hm⟩
  assignments j st x h hst hx :=
    exists_declare_of_mem_take ((ho.used j _ h).assign hst hx).declared

/-- The built-in emitters declare every variable once, in place or in the line that opens the body
of the routine, and before it is read or assigned. -/
theorem variables_declared (options : Options) (registry : Registry) (graph : Graph) :
    VariablesDeclared ((withRegistry options registry).setting graph)
      ((withRegistry options registry).draft graph) :=
  (orderly_draft options registry graph).variablesDeclared

end

end ScriptGraph.Source
