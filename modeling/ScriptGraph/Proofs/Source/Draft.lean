import ScriptGraph.Proofs.Kind.Results
import ScriptGraph.Source.Generator

/-! # What emitters are made of

Lines and blocks that declare nothing, and what the declaration of a variable and the reading of an
input do to the state of a pass.
-/

namespace ScriptGraph.Source

/-- The names that a statement declares. -/
def Statement.declared : Statement → List String
  | .declare _ name _ => [name]
  | .declareAll names => names
  | _ => []

/-- The statement binds a name for good. -/
def Statement.isConst : Statement → Bool
  | .declare .constBinding _ _ => true
  | _ => false

/-- The names that a statement gives another value. -/
def Statement.assigned : Statement → List String
  | .assign name _ => [name]
  | .append name _ => [name]
  | _ => []

/-- Lines and blocks of lines that declare nothing and assign to temporaries at most. -/
inductive Prose (temporaries : List String) : List Event → Prop where
  | nil : Prose temporaries []
  | line {st : Statement} {es : List Event} : st.declared = [] → st.assigned ⊆ temporaries →
      Prose temporaries es → Prose temporaries (.write st :: es)
  | blank {es : List Event} : Prose temporaries es → Prose temporaries (.blank :: es)
  | block {body es : List Event} : Prose temporaries body → Prose temporaries es →
      Prose temporaries (.indent :: (body ++ .dedent :: es))

namespace Prose

variable {temporaries : List String} {es es' : List Event}

theorem append (h : Prose temporaries es) (h' : Prose temporaries es') :
    Prose temporaries (es ++ es') := by
  induction h with
  | nil => exact h'
  | line hd ha _ ih => exact .line hd ha ih
  | blank _ ih => exact .blank ih
  | block hb _ _ ih => simpa using Prose.block hb ih

theorem single {st : Statement} (hd : st.declared = []) (ha : st.assigned ⊆ temporaries) :
    Prose temporaries [.write st] :=
  .line hd ha .nil

theorem blocked (h : Prose temporaries es) : Prose temporaries (.indent :: (es ++ [.dedent])) :=
  .block h .nil

end Prose

/-- What prose consists of. -/
def Event.IsProse (temporaries : List String) : Event → Prop
  | .write st => st.declared = [] ∧ st.assigned ⊆ temporaries
  | .blank | .indent | .dedent => True
  | _ => False

theorem Prose.isProse {temporaries : List String} {es : List Event} (h : Prose temporaries es) :
    ∀ e ∈ es, e.IsProse temporaries := by
  induction h with
  | nil => exact fun _ he => absurd he List.not_mem_nil
  | line hd ha _ ih => exact List.forall_mem_cons.mpr ⟨⟨hd, ha⟩, ih⟩
  | blank _ ih => exact List.forall_mem_cons.mpr ⟨trivial, ih⟩
  | block _ _ ihb ih =>
    refine List.forall_mem_cons.mpr ⟨trivial, List.forall_mem_append.mpr ⟨ihb, ?_⟩⟩
    exact List.forall_mem_cons.mpr ⟨trivial, ih⟩

/-- The state with more in its log. -/
def Draft.logged (d : Draft) (es : List Event) : Draft :=
  { d with log := d.log ++ es.toArray }

@[simp] theorem Draft.log_logged (d : Draft) (es : List Event) :
    (d.logged es).log.toList = d.log.toList ++ es := by
  simp [logged]

@[simp] theorem Draft.logged_nil (d : Draft) : d.logged [] = d := by
  simp [logged]

@[simp] theorem Draft.logged_logged (d : Draft) (es es' : List Event) :
    (d.logged es).logged es' = d.logged (es ++ es') := by
  simp [logged]

theorem log_run (e : Event) (d : Draft) : (log e).run d = ((), d.logged [e]) := by
  change ((), { d with log := d.log.push e }) = _
  simp only [Draft.logged, Array.push_eq_append]

theorem write_run (st : Statement) (d : Draft) :
    (write st).run d = ((), d.logged [.write st]) :=
  log_run _ d

theorem freshName_run (base : String) (d : Draft) :
    (freshName base).run d = ((d.names.unique base).1,
      { d.logged [.fresh (d.names.unique base).1] with
        names := { d.names with
          temporaries := (d.names.unique base).1 :: d.names.temporaries } }) := by
  unfold freshName
  rw [StateT.run_bind]
  change (log _ >>= fun _ => pure _).run _ = _
  rw [StateT.run_bind, log_run]
  rfl

theorem log_freshName (base : String) (d : Draft) :
    ((freshName base).run d).2.log.toList = d.log.toList ++ [.fresh (d.names.unique base).1] :=
  Array.toList_push

theorem log_record (v : Node) (port : Nat) (expression : String) (d : Draft) :
    ((record v port expression).run d).2.log.toList =
      d.log.toList ++ [.record ⟨v.id, port⟩ expression] :=
  Array.toList_push

/-- Whether a variable is given other values can be told from its nodes in any order. -/
theorem Setting.isReassigned_eq_of_perm {s s' : Setting} {name : String}
    (hn : ((s.graph.nodesOfKind Kind.var.name).filter (s.variableName · = name)).Perm
      ((s'.graph.nodesOfKind Kind.var.name).filter (s'.variableName · = name)))
    (hw : ∀ v ∈ s.graph.nodes.toList, s.graph.edgeInto v.id 1 = s'.graph.edgeInto v.id 1) :
    s.isReassigned name = s'.isReassigned name := by
  unfold isReassigned
  dsimp only
  rw [← hn.length_eq, ← hn.any_eq]
  refine congrArg _ ?_
  rw [Bool.eq_iff_iff, List.any_eq_true, List.any_eq_true]
  refine exists_congr fun v => and_congr_right fun hv => ?_
  rw [hw v (List.mem_of_mem_filter (List.mem_of_mem_filter hv))]

/-- The state in which a block has been opened. -/
def opened (d : Draft) : Draft :=
  { d.logged [.indent] with depth := d.depth + 1 }

/-- The state in which a block has ended. -/
def closed (d : Draft) : Draft :=
  { d.logged [.dedent] with depth := d.depth - 1 }

theorem block_run (x : EmitM Unit) (d : Draft) :
    (Emit.block x).run d = ((), closed (x.run (opened d)).2) := by
  have first : indent.run d = ((), opened d) := by
    unfold indent
    rw [StateT.run_bind, log_run]
    rfl
  have last (d : Draft) : dedent.run d = ((), closed d) := by
    unfold dedent
    rw [StateT.run_bind, log_run]
    rfl
  unfold Emit.block
  rw [StateT.run_bind, first]
  change (x >>= fun _ => dedent).run (opened d) = _
  rw [StateT.run_bind]
  exact last _

theorem run_bind_eq {α β : Type} (x : EmitM α) (f : α → EmitM β) (d : Draft) :
    (x >>= f).run d = (f (x.run d).1).run (x.run d).2 :=
  rfl

theorem run_pure_eq {α : Type} (a : α) (d : Draft) : (pure a : EmitM α).run d = (a, d) :=
  rfl

/-- A program that writes certain events, whatever the state. -/
def Writes (x : EmitM Unit) (es : List Event) : Prop :=
  ∀ d, x.run d = ((), d.logged es)

namespace Writes

variable {x y : EmitM Unit} {es es' : List Event}

theorem statement (st : Statement) : Writes (write st) [.write st] :=
  write_run st

theorem line (text : String) : Writes (line text) [.write (.plain text)] :=
  statement (.plain text)

theorem skip : Writes (pure ()) [] := by
  intro d
  rw [Draft.logged_nil]
  rfl

theorem andThen (hx : Writes x es) (hy : Writes y es') : Writes (x >>= fun _ => y) (es ++ es') := by
  intro d
  rw [run_bind_eq, hx, hy, Draft.logged_logged]

theorem block (hx : Writes x es) : Writes (Emit.block x) (.indent :: (es ++ [.dedent])) := by
  intro d
  rw [block_run, hx]
  simp [opened, closed, Draft.logged]

end Writes

/-- A program that writes certain prose, whatever the state. -/
def Prints (temporaries : List String) (x : EmitM Unit) : Prop :=
  ∃ es, Prose temporaries es ∧ ∀ d, x.run d = ((), d.logged es)

namespace Prints

variable {temporaries : List String} {x y : EmitM Unit}

theorem write {st : Statement} (hd : st.declared = []) (ha : st.assigned ⊆ temporaries) :
    Prints temporaries (write st) :=
  ⟨_, .single hd ha, Writes.statement st⟩

theorem line (text : String) : Prints temporaries (line text) :=
  write rfl (List.nil_subset _)

theorem warn (message : String) : Prints temporaries (warn message) :=
  write rfl (List.nil_subset _)

theorem blankLine : Prints temporaries (log .blank) :=
  ⟨_, .blank .nil, log_run .blank⟩

theorem skip : Prints temporaries (pure ()) :=
  ⟨[], .nil, Writes.skip⟩

theorem andThen (hx : Prints temporaries x) (hy : Prints temporaries y) :
    Prints temporaries (x >>= fun _ => y) := by
  obtain ⟨es, he, hx⟩ := hx
  obtain ⟨es', he', hy⟩ := hy
  exact ⟨es ++ es', he.append he', Writes.andThen hx hy⟩

theorem block (hx : Prints temporaries x) : Prints temporaries (Emit.block x) := by
  obtain ⟨es, he, hx⟩ := hx
  exact ⟨_, he.blocked, Writes.block hx⟩

end Prints

/-- The event begins no node and neither opens nor ends a block. -/
def Event.isFlat : Event → Bool
  | .node _ | .indent | .dedent => false
  | _ => true

namespace Setting

variable (s : Setting)

/-- The value that the declaration of a variable gives it. -/
def declaredValue (v : Node) (assigned : Option String) : Option String :=
  assigned.or <|
    if ((s.props v).text "initialValue").isEmpty then none
    else some (typedLiteral ((s.props v).text "type") ((s.props v).text "initialValue"))

/-- The keyword of a declaration that stands in place. -/
def declaredKeyword (v : Node) (assigned : Option String) : Keyword :=
  if (s.declaredValue v assigned).isSome && s.options.preferConst &&
      !s.isReassigned (s.variableName v) then .constBinding
  else .letBinding

/-- What the declaration of a variable writes at a depth. -/
def declaration (v : Node) (assigned : Option String) (depth : Nat) : List Event :=
  .declare (s.variableName v) ::
    if routineDepth < depth then
      (s.declaredValue v assigned).toList.map fun value => .write (.assign (s.variableName v) value)
    else
      [.write (.declare (s.declaredKeyword v assigned) (s.variableName v)
        (s.declaredValue v assigned))]

/-- The state after the declaration of a variable. -/
def declared (v : Node) (assigned : Option String) (d : Draft) : Draft :=
  { d.logged (s.declaration v assigned d.depth) with
    names := d.names.declare (s.variableName v) ((s.props v).text "type")
    hoisted := d.hoisted ++ if routineDepth < d.depth then [s.variableName v] else [] }

theorem declareVariable_run (v : Node) (assigned : Option String) (d : Draft) :
    (s.declareVariable v assigned).run d = ((), s.declared v assigned d) := by
  unfold declareVariable
  simp only [StateT.run_bind, StateT.run_modify, StateT.run_get, pure_bind, log_run]
  change StateT.run (if routineDepth < d.depth then _ else _) _ = _
  by_cases h : routineDepth < d.depth
  · rw [if_pos h]
    simp only [StateT.run_bind, StateT.run_modify, pure_bind]
    rw [← declaredValue]
    cases hv : s.declaredValue v assigned with
    | none =>
      simp [declared, declaration, h, hv, Draft.logged, variableName]
      rfl
    | some value =>
      simp [declared, declaration, h, hv, Draft.logged, write_run, variableName]
      rfl
  · rw [if_neg h]
    change (write (.declare (s.declaredKeyword v assigned) (s.variableName v)
      (s.declaredValue v assigned))).run _ = _
    rw [write_run]
    simp [declared, declaration, h, Draft.logged, variableName]
    rfl

/-- The variable behind an input that is still to be declared. -/
def undeclared? (names : Names) (v : Node) (index : Nat) : Option Node :=
  match s.producer? v index with
  | none => none
  | some (producer, _) =>
    if producer.kind = Kind.var.name ∧ s.variableName producer ≠ "" ∧
        names.isDeclared (s.variableName producer) = false then some producer
    else none

/-- The state after the variable behind an input has been declared. -/
def withProducer (v : Node) (index : Nat) (d : Draft) : Draft :=
  match s.undeclared? d.names v index with
  | none => d
  | some producer => s.declared producer none d

@[simp] theorem visited_withProducer (v : Node) (index : Nat) (d : Draft) :
    (s.withProducer v index d).visited = d.visited := by
  unfold withProducer
  split <;> rfl

@[simp] theorem outputs_withProducer (v : Node) (index : Nat) (d : Draft) :
    (s.withProducer v index d).outputs = d.outputs := by
  unfold withProducer
  split <;> rfl

theorem log_declared (v : Node) (assigned : Option String) (d : Draft) :
    (s.declared v assigned d).log.toList =
      d.log.toList ++ s.declaration v assigned d.depth :=
  d.log_logged _

theorem isFlat_declaration (v : Node) (assigned : Option String) (depth : Nat) :
    ∀ e ∈ s.declaration v assigned depth, e.isFlat := by
  unfold declaration
  split <;> simp [Event.isFlat]

theorem log_withProducer (v : Node) (index : Nat) (d : Draft) :
    ∃ es : List Event, (∀ e ∈ es, e.isFlat) ∧
      (s.withProducer v index d).log.toList = d.log.toList ++ es := by
  unfold withProducer
  split
  · exact ⟨[], by simp, by simp⟩
  · exact ⟨_, s.isFlat_declaration _ _ _, s.log_declared _ _ _⟩

theorem declareProducer_run (v : Node) (index : Nat) (d : Draft) :
    (s.declareProducer v index).run d = ((), s.withProducer v index d) := by
  unfold declareProducer withProducer undeclared?
  cases hp : s.producer? v index with
  | none => rfl
  | some source =>
    obtain ⟨producer, output⟩ := source
    by_cases hv : producer.kind = Kind.var.name ∧ s.variableName producer ≠ ""
    · cases hd : d.names.isDeclared (s.variableName producer) with
      | true =>
        simp [hv, hd, isDeclared]
        rfl
      | false => simp [hv, hd, isDeclared, declareVariable_run]
    · have : ¬ (producer.kind = Kind.var.name ∧ s.variableName producer ≠ "" ∧
          d.names.isDeclared (s.variableName producer) = false) :=
        fun h => hv ⟨h.1, h.2.1⟩
      simp [hv, this]
      rfl

theorem input_run (v : Node) (index : Nat) (d : Draft) :
    (s.input v index).run d =
      (s.resolveInput (s.outputSource d) v index,
        (s.withProducer v index d).logged
          [.read ⟨v.id, index⟩ (s.resolveInput (s.outputSource d) v index)]) := by
  have : s.outputSource (s.withProducer v index d) = s.outputSource d := by
    simp only [outputSource, outputs_withProducer]
  unfold input
  rw [StateT.run_bind, declareProducer_run, ← this]
  rfl

/-- The expression that flows into an input, given those recorded last. -/
def given (outputs : Table PortRef String) (v : Node) (index : Nat) : Option String :=
  s.resolveInput (s.outputSource { depth := routineDepth, outputs }) v index

theorem isSome_given (outputs : Table PortRef String) (v : Node) (index : Nat) :
    (s.given outputs v index).isSome = s.offers outputs.contains v index := by
  unfold given Workspace.resolveInput Workspace.offers
  cases hp : s.producer? v index with
  | none => rfl
  | some source =>
    obtain ⟨producer, output⟩ := source
    by_cases hv : producer.kind = Kind.var.name
    · simp [hv, outputSource, Props.isSome_nonEmpty?, props]
    · simp only [hv, if_false, outputSource, Option.isSome_or, Table.contains]
      by_cases hc : producer.kind = Kind.constant.name <;> simp [hc]

end Setting

end ScriptGraph.Source
