import ScriptGraph.Proofs.Source.DepthFirst
import ScriptGraph.Proofs.Source.Simulation
import ScriptGraph.Proofs.Source.Variables

/-! # Options and the text

Options decide on the surface of a text: on the header, on semicolons, on the keyword of names that
are bound once, and on the comments around each node. Two passes over one graph under different
options go side by side. They emit the same nodes in the same order, take the same names, record the
same expressions and write the same lines, up to those comments and that keyword.
-/

namespace ScriptGraph.Source

/-! ### What lies below the surface -/

/-- The statement with any name that it declares bound by `let`. -/
def Statement.withLet : Statement → Statement
  | .declare _ name value => .declare .letBinding name value
  | st => st

/-- The statement is a comment that announces a node or takes leave of it. -/
def Statement.isMarker : Statement → Bool
  | .processing _ | .finished _ => true
  | _ => false

/-- The event without keyword. Of the comments around a node and of blank lines nothing is left. -/
def Event.core? : Event → Option Event
  | .write st => if st.isMarker then none else some (.write st.withLet)
  | .blank => none
  | e => some e

/-- Two states of passes that are the same below the surface of the text. -/
structure SameCore (d d' : Draft) : Prop where
  depth : d.depth = d'.depth
  names : d.names = d'.names
  outputs : d.outputs = d'.outputs
  visited : d.visited = d'.visited
  hoisted : d.hoisted = d'.hoisted
  log : d.log.toList.filterMap Event.core? = d'.log.toList.filterMap Event.core?

variable {d d' : Draft} {es es' : List Event}

theorem SameCore.logged (h : SameCore d d')
    (he : es.filterMap Event.core? = es'.filterMap Event.core?) :
    SameCore (d.logged es) (d'.logged es') where
  depth := h.depth
  names := h.names
  outputs := h.outputs
  visited := h.visited
  hoisted := h.hoisted
  log := by
    rw [Draft.log_logged, Draft.log_logged, List.filterMap_append, List.filterMap_append, h.log, he]

theorem simulates_core_log {e e' : Event} (he : e.core? = e'.core?) :
    Simulates SameCore (log e) (log e') := by
  intro d d' h
  rw [log_run, log_run]
  have single : [e].filterMap Event.core? = [e'].filterMap Event.core? := by
    simp only [List.filterMap_cons, he]
  exact ⟨rfl, h.logged single⟩

/-- A change of the state that looks at nothing on the surface. -/
theorem simulates_core_modify {f : Draft → Draft}
    (hf : ∀ d d', SameCore d d' → SameCore (f d) (f d')) :
    Simulates SameCore (modify f) (modify f) :=
  fun d d' h => ⟨rfl, hf d d' h⟩

theorem simulates_core_enter (id : NodeId) :
    Simulates SameCore (Generator.enter id) (Generator.enter id) := by
  intro d d' h
  change (d.visited.enter id).1 = (d'.visited.enter id).1 ∧
    SameCore { d with visited := (d.visited.enter id).2 }
      { d' with visited := (d'.visited.enter id).2 }
  rw [h.visited]
  exact ⟨rfl, ⟨h.depth, h.names, h.outputs, rfl, h.hoisted, h.log⟩⟩

theorem simulates_core_freshName (base : String) :
    Simulates SameCore (freshName base) (freshName base) := by
  intro d d' h
  have logged : SameCore (d.logged [.fresh (d'.names.unique base).1])
      (d'.logged [.fresh (d'.names.unique base).1]) := h.logged rfl
  rw [freshName_run, freshName_run, h.names]
  exact ⟨rfl, ⟨logged.depth, rfl, logged.outputs, logged.visited, logged.hoisted, logged.log⟩⟩

theorem simulates_core_isDeclared (name : String) :
    Simulates SameCore (isDeclared name) (isDeclared name) := by
  intro d d' h
  change d.names.isDeclared name = d'.names.isDeclared name ∧ SameCore d d'
  rw [h.names]
  exact ⟨rfl, h⟩

theorem simulates_core_record (v : Node) (port : Nat) (expression : String) :
    Simulates SameCore (record v port expression) (record v port expression) := by
  refine (simulates_core_log rfl).bind fun _ => simulates_core_modify fun d d' h => ?_
  exact ⟨h.depth, h.names, by rw [h.outputs], h.visited, h.hoisted, h.log⟩

/-! ### Emitters under different options -/

section

variable {w : Workspace} {options options' : Options} {v : Node}

theorem SameCore.resolveInput_eq (h : SameCore d d') (index : Nat) :
    w.resolveInput (Setting.outputSource ⟨w, options⟩ d) v index =
      w.resolveInput (Setting.outputSource ⟨w, options'⟩ d') v index := by
  have source : Setting.outputSource ⟨w, options⟩ d = Setting.outputSource ⟨w, options'⟩ d' := by
    unfold Setting.outputSource
    rw [h.outputs]
    rfl
  rw [source]

theorem SameCore.declared (h : SameCore d d') (assigned : Option String) :
    SameCore (Setting.declared ⟨w, options⟩ v assigned d)
      (Setting.declared ⟨w, options'⟩ v assigned d') := by
  have written : (Setting.declaration ⟨w, options⟩ v assigned d.depth).filterMap Event.core? =
      (Setting.declaration ⟨w, options'⟩ v assigned d'.depth).filterMap Event.core? := by
    unfold Setting.declaration
    rw [h.depth]
    split <;> rfl
  have logged := h.logged written
  refine ⟨logged.depth, ?_, logged.outputs, logged.visited, ?_, logged.log⟩
  · change d.names.declare _ _ = d'.names.declare _ _
    rw [h.names]
    rfl
  · change d.hoisted ++ _ = d'.hoisted ++ _
    rw [h.hoisted, h.depth]
    rfl

theorem SameCore.withProducer (h : SameCore d d') (index : Nat) :
    SameCore (Setting.withProducer ⟨w, options⟩ v index d)
      (Setting.withProducer ⟨w, options'⟩ v index d') := by
  have undeclared : Setting.undeclared? ⟨w, options⟩ d.names v index =
      Setting.undeclared? ⟨w, options'⟩ d'.names v index := by
    rw [h.names]
    rfl
  unfold Setting.withProducer
  rw [undeclared]
  cases Setting.undeclared? ⟨w, options'⟩ d'.names v index with
  | none => exact h
  | some producer => exact h.declared none

/-- Whatever emitters are made of, options make a difference on the surface only. -/
theorem similar_core (w : Workspace) (options options' : Options) (v : Node) :
    Setting.Similar SameCore ⟨w, options⟩ ⟨w, options'⟩ v v where
  props := .refl _
  log _ := simulates_core_log rfl
  indent := (simulates_core_log rfl).bind fun _ => simulates_core_modify fun _ _ h =>
    ⟨congrArg (· + 1) h.depth, h.names, h.outputs, h.visited, h.hoisted, h.log⟩
  dedent := (simulates_core_log rfl).bind fun _ => simulates_core_modify fun _ _ h =>
    ⟨congrArg (· - 1) h.depth, h.names, h.outputs, h.visited, h.hoisted, h.log⟩
  freshName := simulates_core_freshName
  isDeclared := simulates_core_isDeclared
  record := simulates_core_record v
  input {index} _ := by
    intro d d' h
    have value : w.resolveInput (Setting.outputSource ⟨w, options⟩ d) v index =
        w.resolveInput (Setting.outputSource ⟨w, options'⟩ d') v index := h.resolveInput_eq index
    rw [Setting.input_run, Setting.input_run, value]
    exact ⟨rfl, (h.withProducer index).logged rfl⟩
  declareVariable assigned := by
    intro d d' h
    rw [Setting.declareVariable_run, Setting.declareVariable_run]
    exact ⟨rfl, h.declared assigned⟩
  declareResult _ _ := simulates_core_log rfl
  recordPrimary expression := by
    unfold Setting.recordPrimary
    cases (w.registry.portsOf? v).bind (·.primaryOutput?) with
    | none => exact .pure ()
    | some port => exact simulates_core_record v port expression

end

/-! ### Whole passes -/

namespace Generator

variable {w : Workspace} {options options' : Options} {v : Node} {visit visit' : Node → EmitM Unit}

/-- The comment in front of a node, if comments are wanted. -/
def opening (options : Options) (v : Node) : List Event :=
  if options.emitComments then [.write (.processing v.kind)] else []

/-- The comment behind a node with its blank line, if comments are wanted. -/
def closing (options : Options) (v : Node) : List Event :=
  if options.emitComments then [.write (.finished v.kind), .blank] else []

theorem core_opening (options : Options) (v : Node) :
    (opening options v).filterMap Event.core? = [] := by
  unfold opening
  split <;> rfl

theorem core_closing (options : Options) (v : Node) :
    (closing options v).filterMap Event.core? = [] := by
  unfold closing
  split <;> rfl

/-- A node is emitted between its comments. -/
theorem emission_run (s : Setting) (d : Draft) :
    (emission options s visit v).run d =
      (((content s visit v).run (d.logged (opening options v))).1,
        ((content s visit v).run (d.logged (opening options v))).2.logged (closing options v)) := by
  unfold emission opening closing
  cases options.emitComments with
  | false =>
    simp only [Bool.false_eq_true, if_false, Draft.logged_nil]
    rfl
  | true =>
    simp only [if_true, StateT.run_bind, write_run]
    rfl

theorem simulates_core_content (hv : ∀ u, Simulates SameCore (visit u) (visit' u)) :
    Simulates SameCore (content ⟨w, options⟩ visit v) (content ⟨w, options'⟩ visit' v) := by
  have branch (port : Nat) : Simulates SameCore (w.branch visit v port) (w.branch visit' v port) :=
    .forM hv
  unfold content
  cases Kind.ofName? v.kind with
  | some kind =>
    exact simulates_builtin (similar_core w options options' v) branch kind fun _ => rfl
  | none => exact (simulates_core_log rfl).bind fun _ => .pure _

theorem simulates_core_emit (options options' : Options)
    (hv : ∀ u, Simulates SameCore (visit u) (visit' u)) :
    Simulates SameCore ((builtin options).emit ⟨w, options⟩ visit v)
      ((builtin options').emit ⟨w, options'⟩ visit' v) := by
  rw [emit_eq, emit_eq]
  refine (simulates_core_log rfl).bind fun _ => ?_
  intro d d' h
  have announced : SameCore (d.logged (opening options v)) (d'.logged (opening options' v)) :=
    h.logged (by rw [core_opening, core_opening])
  obtain ⟨flow, same⟩ := simulates_core_content hv _ _ announced
  rw [emission_run, emission_run]
  exact ⟨flow, same.logged (by rw [core_closing, core_closing])⟩

/-- Under other options a pass goes the same way below the surface. -/
theorem sameCore_draft (options options' : Options) (graph : Graph) :
    SameCore ((builtin options).draft graph) ((builtin options').draft graph) := by
  let w : Workspace := ⟨graph, .builtin⟩
  have emitted (visit visit' : Node → EmitM Unit)
      (hv : ∀ u, Simulates SameCore (visit u) (visit' u)) (v : Node) :
      Simulates SameCore ((builtin options).emit ⟨w, options⟩ visit v)
        ((builtin options').emit ⟨w, options'⟩ visit' v) :=
    simulates_core_emit options options' hv
  have visited (v : Node) : Simulates SameCore ((builtin options).visit graph v)
      ((builtin options').visit graph v) :=
    .walk (fun _ _ => rfl) simulates_core_enter emitted graph.nodes.size v
  have pass : Simulates SameCore
      (((builtin options).setting graph).entryNodes.forM ((builtin options).visit graph))
      (((builtin options').setting graph).entryNodes.forM ((builtin options').visit graph)) :=
    .forM visited
  exact (pass _ _ ⟨rfl, rfl, rfl, rfl, rfl, rfl⟩).2

end Generator

/-! ### Lines -/

/-- The lines of a log, each with the depth of the block in which it stands. -/
def linesFrom : (depth : Nat) → List Event → List (Statement × Nat)
  | _, [] => []
  | depth, .write st :: es => (st, depth) :: linesFrom depth es
  | depth, .indent :: es => linesFrom (depth + 1) es
  | depth, .dedent :: es => linesFrom (depth - 1) es
  | depth, _ :: es => linesFrom depth es

/-- The lines of the body of the routine with their depths: the declaration that opens it, and what
has been written. -/
def Draft.lines (d : Draft) : List (Statement × Nat) :=
  (if d.hoisted.isEmpty then [] else [(.declareAll d.hoisted, routineDepth)]) ++
    linesFrom routineDepth d.log.toList

/-- The text of a step that is a line. -/
def Step.line? : Step → Option String
  | .line text => some text
  | _ => none

/-- The lines that steps give to a writer, each with the depth at which it is written. -/
def Writer.given (w : Writer) : List Step → List (String × Nat)
  | [] => []
  | step :: steps =>
    (step.line?.map fun text => (text, w.depth)).toList ++ (w.apply step).given steps

theorem Writer.given_steps (w : Writer) (es : List Event) :
    w.given (es.filterMap Event.step?) =
      (linesFrom w.depth es).map fun line => (line.1.text, line.2) := by
  induction es generalizing w with
  | nil => rfl
  | cons e es ih =>
    cases e with
    | write st =>
      change (st.text, w.depth) :: (w.line st.text).given _ = _
      rw [ih]
      rfl
    | blank => exact ih w.blank
    | indent => exact ih w.indent
    | dedent => exact ih w.dedent
    | _ => exact ih w

/-- The lines of the body are what the writer is given between the header of the routine and the
brace that closes it. -/
def Generator.GivesLines (g : Generator) (graph : Graph) : Prop :=
  ∃ body, g.steps graph = g.header graph ++ body ++ footer ∧
    ((g.header graph).foldl Writer.apply ⟨g.options.emitSemicolons, 0, ""⟩).given body =
      (g.draft graph).lines.map fun line => (line.1.text, line.2)

theorem Generator.givesLines (g : Generator) (graph : Graph) : g.GivesLines graph := by
  let d := g.draft graph
  refine ⟨hoistedLine d ++ d.log.toList.filterMap Event.step?, ?_, ?_⟩
  · simp only [steps, List.append_assoc, d]
  · have depth :
        ((g.header graph).foldl Writer.apply ⟨g.options.emitSemicolons, 0, ""⟩).depth =
          routineDepth := by
      unfold header
      cases g.options.emitStrictHeader <;> rfl
    generalize (g.header graph).foldl Writer.apply _ = w at depth
    unfold hoistedLine Draft.lines
    split
    next => rw [List.nil_append, List.nil_append, Writer.given_steps, depth]
    next =>
      have rest (text : String) : (w.line text).given (d.log.toList.filterMap Event.step?) =
          (linesFrom routineDepth d.log.toList).map fun line => (line.1.text, line.2) := by
        rw [Writer.given_steps, ← depth]
        rfl
      change (_, w.depth) :: (w.line _).given (d.log.toList.filterMap Event.step?) = _
      rw [rest, depth]
      rfl

/-- The same line, or a line that binds the same name to the same value with another keyword. -/
inductive SameLine : Statement × Nat → Statement × Nat → Prop where
  | same (line : Statement × Nat) : SameLine line line
  | keyword (k k' : Keyword) (name : String) (value : Option String) (depth : Nat) :
      SameLine (.declare k name value, depth) (.declare k' name value, depth)

theorem SameLine.of_withLet {st st' : Statement} (depth : Nat) (h : st.withLet = st'.withLet) :
    SameLine (st, depth) (st', depth) := by
  cases st with
  | declare k name value =>
    cases st' with
    | declare k' name' value' =>
      obtain ⟨-, rfl, rfl⟩ := Statement.declare.inj h
      exact .keyword k k' name value depth
    | _ => cases h
  | _ =>
    obtain rfl : _ = st' := by
      cases st' with
      | declare => cases h
      | _ => exact h
    exact .same _

/-- Lines that are the same below the surface are the same but for keywords. -/
theorem sameLine_of_map_eq {lines lines' : List (Statement × Nat)}
    (h : lines.map (fun line => (line.1.withLet, line.2)) =
      lines'.map fun line => (line.1.withLet, line.2)) :
    List.Forall₂ SameLine lines lines' := by
  induction lines generalizing lines' with
  | nil =>
    obtain rfl := List.map_eq_nil_iff.mp h.symm
    exact .nil
  | cons line lines ih =>
    cases lines' with
    | nil => cases h
    | cons line' lines' =>
      obtain ⟨st, depth⟩ := line
      obtain ⟨st', depth'⟩ := line'
      simp only [List.map_cons, List.cons.injEq, Prod.mk.injEq] at h
      obtain ⟨⟨hs, rfl⟩, rest⟩ := h
      exact .cons (.of_withLet depth hs) (ih rest)

/-- The lines without the comments that announce nodes or take leave of them. -/
def Draft.plainLines (d : Draft) : List (Statement × Nat) :=
  d.lines.filter fun line => !line.1.isMarker

theorem linesFrom_core (depth : Nat) (es : List Event) :
    linesFrom depth (es.filterMap Event.core?) =
      ((linesFrom depth es).filter fun line => !line.1.isMarker).map
        fun line => (line.1.withLet, line.2) := by
  induction es generalizing depth with
  | nil => rfl
  | cons e es ih =>
    cases e with
    | write st =>
      cases hm : st.isMarker with
      | true => simpa [Event.core?, linesFrom, hm] using ih depth
      | false => simpa [Event.core?, linesFrom, hm] using ih depth
    | blank => exact ih depth
    | indent => exact ih (depth + 1)
    | dedent => exact ih (depth - 1)
    | _ => exact ih depth

theorem SameCore.plainLines (h : SameCore d d') :
    List.Forall₂ SameLine d.plainLines d'.plainLines := by
  have core (d : Draft) : d.plainLines.map (fun line => (line.1.withLet, line.2)) =
      (if d.hoisted.isEmpty then [] else [(.declareAll d.hoisted, routineDepth)]) ++
        linesFrom routineDepth (d.log.toList.filterMap Event.core?) := by
    unfold Draft.plainLines Draft.lines
    rw [List.filter_append, List.map_append, linesFrom_core]
    split <;> rfl
  apply sameLine_of_map_eq
  rw [core, core, h.hoisted, h.log]

/-- Two passes over one graph differ on the surface of the text only. -/
structure SurfaceOnly (d d' : Draft) : Prop where
  order : nodesOf d.log.toList = nodesOf d'.log.toList
  outputs : d.outputs = d'.outputs
  temporaries : d.names.temporaries = d'.names.temporaries
  declared : d.names.declared = d'.names.declared
  hoisted : d.hoisted = d'.hoisted
  /-- Inputs read, expressions recorded, names taken and declared: what else has happened. -/
  log : d.log.toList.filterMap Event.core? = d'.log.toList.filterMap Event.core?
  lines : List.Forall₂ SameLine d.plainLines d'.plainLines

theorem nodesOf_core (es : List Event) : nodesOf (es.filterMap Event.core?) = nodesOf es := by
  unfold nodesOf
  rw [List.filterMap_filterMap]
  refine List.filterMap_congr fun e _ => ?_
  cases e with
  | write st => cases hm : st.isMarker <;> simp [Event.core?, hm]
  | _ => rfl

/-- The options of a generator change no more than the surface of its text: whatever they are, it
emits the same nodes in the same order, takes the same names, records the same expressions, and
gives the writer the same lines at the same depths but for the comments around nodes and the
keywords of bindings. -/
theorem draft_surfaceOnly (options options' : Options) (graph : Graph) :
    SurfaceOnly ((builtin options).draft graph) ((builtin options').draft graph) ∧
      (builtin options).GivesLines graph ∧ (builtin options').GivesLines graph := by
  have h := Generator.sameCore_draft options options' graph
  have order := congrArg nodesOf h.log
  rw [nodesOf_core, nodesOf_core] at order
  have same : SurfaceOnly ((builtin options).draft graph) ((builtin options').draft graph) :=
    ⟨order, h.outputs, by rw [h.names], by rw [h.names], h.hoisted, h.log, h.plainLines⟩
  exact ⟨same, Generator.givesLines _ graph, Generator.givesLines _ graph⟩

end ScriptGraph.Source
