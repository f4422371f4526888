import ScriptGraph.Proofs.Script.Decision
import ScriptGraph.Proofs.Script.Traversal
import ScriptGraph.Proofs.Source.Nesting

/-! # Cases of a switch

The registry lists an output for each case of a switch, behind the one for the default. The
generator writes a block for each case, with what its output leads to, and the interpreter follows
the output of the first case that holds. All three count the same cases.
-/

namespace ScriptGraph

/-- The outputs are those of a switch with certain cases: one for the default, and one with the
label of each case. -/
structure Ports.ServeCases (ports : Ports) (cases : List SwitchCase) : Prop where
  count : ports.outputs.length = 1 + cases.length
  control {port : Nat} (h : port ≤ cases.length) : ports.outputKind? port = some .control
  labelled {index : Nat} {c : SwitchCase} (h : cases[index]? = some c) :
    (ports.outputs[index + 1]?).map (·.name) = some (c.label index)

theorem serveCases (v : Node) :
    (Kind.switch.descriptor.ports v.properties).ServeCases v.switchCases where
  count := by rw [outputs_switch, List.length_cons, List.length_mapIdx, Nat.add_comm]
  control {port} h := by
    rw [Ports.outputKind?, outputs_switch]
    cases port with
    | zero => rfl
    | succ index => simp [List.getElem?_eq_getElem h, PortDescriptor.control]
  labelled {index c} h := by
    rw [outputs_switch, List.getElem?_cons_succ, List.getElem?_mapIdx, h]
    rfl

/-! ### Blocks -/

namespace Source

/-- The labels of the blocks of a switch, each with the output that the block is about. -/
def caseLabels (ignoreCase : Bool) (cases : List SwitchCase) : List (String × Nat) :=
  (cases.mapIdx fun index c => (s!"case {Emit.caseLabel ignoreCase c}:", index + 1)) ++
    [("default:", 0)]

variable {s : Setting} {v : Node} {visit : Node → EmitM Unit}

/-- What is written block by block: each stands behind its label and holds what has been written on
the walk from its output. -/
inductive WritesBlocks (s : Setting) (visit : Node → EmitM Unit) (v : Node) :
    List (String × Nat) → Draft → List Event → Draft → Prop where
  | nil (d : Draft) : WritesBlocks s visit v [] d [] d
  | cons {label : String} {port : Nat} {blocks : List (String × Nat)} {d d₁ d' : Draft}
      {body es : List Event} :
      (s.branch visit v port).run (opened (d.logged [.write (.plain label)])) = ((), d₁) →
      d₁.log.toList = d.log.toList ++ [.write (.plain label), .indent] ++ body →
      Nested (body.filterMap Event.step?) →
      WritesBlocks s visit v blocks (closed (d₁.logged [.write (.plain "break")])) es d' →
      WritesBlocks s visit v ((label, port) :: blocks) d
        ([.write (.plain label), .indent] ++ body ++ [.write (.plain "break"), .dedent] ++ es) d'

theorem WritesBlocks.log_eq {blocks : List (String × Nat)} {d d' : Draft} {es : List Event}
    (h : WritesBlocks s visit v blocks d es d') : d'.log.toList = d.log.toList ++ es := by
  induction h with
  | nil => simp
  | @cons label port blocks d d₁ d' body es _ log _ _ ih =>
    have ended : (closed (d₁.logged [.write (.plain "break")])).log.toList =
        d₁.log.toList ++ [.write (.plain "break"), .dedent] := by
      simp [closed]
    rw [ih, ended, log]
    simp

theorem line_bind_run {α : Type} (text : String) (f : Unit → EmitM α) (d : Draft) :
    (line text >>= f).run d = (f ()).run (d.logged [.write (.plain text)]) := by
  rw [StateT.run_bind, line, write_run]
  rfl

theorem block_bind_run {α : Type} (x : EmitM Unit) (f : Unit → EmitM α) (d : Draft) :
    (Emit.block x >>= f).run d = (f ()).run (closed (x.run (opened d)).2) := by
  rw [StateT.run_bind, block_run]
  rfl

theorem caseBlock_run (label : String) (port : Nat) (d : Draft) :
    (Emit.caseBlock s visit v label port).run d = ((), closed (Draft.logged
      ((s.branch visit v port).run (opened (d.logged [.write (.plain label)]))).2
      [.write (.plain "break")])) := by
  unfold Emit.caseBlock
  rw [line_bind_run, block_run, StateT.run_bind]
  refine congrArg (fun d => ((), closed d)) ?_
  exact congrArg Prod.snd (write_run _ _)

theorem caseBlocks_eq (ignoreCase : Bool) (index : Nat) (cases : List SwitchCase) :
    Emit.caseBlocks s visit v ignoreCase index cases =
      (cases.mapIdx fun i c => (s!"case {Emit.caseLabel ignoreCase c}:", index + i + 1)).forM
        fun block => Emit.caseBlock s visit v block.1 block.2 := by
  induction cases generalizing index with
  | nil => rfl
  | cons c cases ih =>
    rw [List.mapIdx_cons]
    change (Emit.caseBlock s visit v _ (index + 1) >>= fun _ => _) = _ >>= fun _ => _
    rw [ih]
    simp only [Nat.add_assoc, Nat.add_comm 1]

/-- The blocks of the cases come before that of the default. -/
theorem switchBlocks_eq (ignoreCase : Bool) (cases : List SwitchCase) :
    (Emit.caseBlocks s visit v ignoreCase 0 cases >>= fun _ =>
      Emit.caseBlock s visit v "default:" 0) =
      (caseLabels ignoreCase cases).forM fun block => Emit.caseBlock s visit v block.1 block.2 := by
  rw [caseBlocks_eq, caseLabels, List.forM_eq_forM, List.forM_append, List.forM_cons,
    List.forM_nil, bind_pure_unit]
  simp only [Nat.zero_add]

/-- What the generator makes of a switch. -/
structure WritesCases (options : Options) (graph : Graph) (v : Node) : Prop where
  emitter : (builtin options).emitters.get? v.kind = some Emit.switch
  /-- It writes one block for each case, with what the output of the case leads to, and a last one
  with what the output for the default leads to. The walk may go as deep as there are nodes left. -/
  blocks {depth : Nat} {d d₁ : Draft} {subject : String}
    (h : graph.unentered d.visited.visited ≤ depth) :
    let g := builtin options
    let s := g.setting graph
    let visit := walk s.toWorkspace Generator.enter (g.emit s) depth
    (s.input v 1).run d = (some subject, d₁) →
    let ignoreCase := (s.props v).flag "ignoreCase"
    let compared := if ignoreCase then s!"{subject}.toString().toLowerCase()" else subject
    let header := Event.write (.plain s!"switch ({compared}) \x7b")
    ∃ es d₂ d', WritesBlocks s visit v (caseLabels ignoreCase v.switchCases)
        (opened (d₁.logged [header])) es d₂ ∧
      (Emit.switch s visit v).run d = (.halt, d') ∧
      d'.log.toList = d₁.log.toList ++ [header, .indent] ++ es ++
        [.dedent, .write (.plain "\x7d")]
  /-- Without anything to compare it writes a warning and no block. -/
  missing {visit : Node → EmitM Unit} {d d₁ : Draft} :
    let s := (builtin options).setting graph
    (s.input v 1).run d = (none, d₁) →
      (Emit.switch s visit v).run d =
        (.halt, d₁.logged [.write (.warning "Switch node is missing input value")])

section

variable (options : Options) (graph : Graph)

theorem exists_writesBlocks (v : Node) (blocks : List (String × Nat)) (d : Draft) {depth : Nat}
    (h : graph.unentered d.visited.visited ≤ depth) :
    let g := builtin options
    let s := g.setting graph
    let visit := walk s.toWorkspace Generator.enter (g.emit s) depth
    ∃ es d', (blocks.forM fun block => Emit.caseBlock s visit v block.1 block.2).run d = ((), d') ∧
      WritesBlocks s visit v blocks d es d' := by
  intro g s visit
  induction blocks generalizing d with
  | nil => exact ⟨[], d, rfl, .nil d⟩
  | cons block blocks ih =>
    obtain ⟨label, port⟩ := block
    let d₀ := opened (d.logged [.write (.plain label)])
    obtain ⟨nests, left⟩ := Generator.nests_branch options .builtin graph v port d₀ h
    obtain ⟨body, log, nested, -⟩ := nests
    obtain ⟨es, d', run, writes⟩ :=
      ih (closed (((s.branch visit v port).run d₀).2.logged [.write (.plain "break")])) left
    refine ⟨_, d', ?_, .cons rfl ?_ nested writes⟩
    · change (Emit.caseBlock s visit v label port >>= fun _ => List.forM blocks _).run d = _
      rw [StateT.run_bind, caseBlock_run]
      exact run
    · change ((s.branch visit v port).run d₀).2.log.toList = _
      rw [log]
      simp [d₀, opened]

theorem writesCases {v : Node} (hk : v.kind = Kind.switch.name) :
    WritesCases options graph v where
  emitter := by rw [Generator.emitters_builtin, hk, Kind.ofName?_name]; rfl
  blocks {depth d d₁ subject} h := by
    intro g s visit given ignoreCase compared header
    have cases : SwitchCase.list ((s.props v).get? "cases") = v.switchCases :=
      s.cases_eq rfl hk
    have left : graph.unentered d₁.visited.visited ≤ depth := by
      have after := congrArg (·.2.visited) given
      rw [s.input_run] at after
      rw [← after]
      exact s.visited_withProducer v 1 d ▸ h
    obtain ⟨es, d₂, run, writes⟩ := exists_writesBlocks options graph v
      (caseLabels ignoreCase v.switchCases) (opened (d₁.logged [header])) left
    refine ⟨es, d₂, (closed d₂).logged [.write (.plain "\x7d")], writes, ?_, ?_⟩
    · unfold Emit.switch
      rw [StateT.run_bind, given]
      change (line s!"switch ({compared}) \x7b" >>= fun _ =>
        Emit.block (Emit.caseBlocks s visit v ignoreCase 0 (SwitchCase.list _) >>= fun _ =>
          Emit.caseBlock s visit v "default:" 0) >>= fun _ =>
        line "\x7d" >>= fun _ => pure Flow.halt).run d₁ = _
      rw [line_bind_run, block_bind_run, line_bind_run, cases, switchBlocks_eq, run]
      rfl
    · simp [closed, writes.log_eq, opened]
  missing {visit d d₁} := by
    intro s missing
    unfold Emit.switch
    rw [StateT.run_bind, missing]
    change (warn _ >>= fun _ => pure Flow.halt).run d₁ = _
    rw [StateT.run_bind, warn, write_run]
    rfl

end

end Source

/-! ### Choices -/

namespace Script

open Json (Value)

/-- The output that a value selects: that of the first case that holds for it, or else that for the
default. -/
inductive Selects (ignoreCase : Bool) (value : Value) (cases : List SwitchCase) : Nat → Prop where
  | case {index : Nat} {c : SwitchCase} : cases[index]? = some c →
      Execute.caseMatches ignoreCase value c →
      (∀ earlier < index, ∀ c' ∈ cases[earlier]?, ¬ Execute.caseMatches ignoreCase value c') →
      Selects ignoreCase value cases (index + 1)
  | default : (∀ c ∈ cases, ¬ Execute.caseMatches ignoreCase value c) →
      Selects ignoreCase value cases 0

theorem selects_iff {ignoreCase : Bool} {value : Value} {cases : List SwitchCase} {port : Nat} :
    Selects ignoreCase value cases port ↔ Execute.casePort ignoreCase value cases = port := by
  unfold Execute.casePort
  constructor
  · intro h
    cases h with
    | @case index c found holds first =>
      obtain ⟨hi, rfl⟩ := List.getElem?_eq_some_iff.mp found
      have least : cases.findIdx? (Execute.caseMatches ignoreCase value) = some index :=
        List.findIdx?_eq_some_iff_getElem.mpr ⟨hi, holds, fun earlier he =>
          first earlier he _ (List.getElem?_eq_getElem (he.trans hi))⟩
      rw [least]
    | default none =>
      rw [List.findIdx?_eq_none_iff.mpr fun c hc => Bool.eq_false_iff.mpr (none c hc)]
  · rintro rfl
    split
    next index h =>
      obtain ⟨hi, holds, first⟩ := List.findIdx?_eq_some_iff_getElem.mp h
      refine .case (List.getElem?_eq_getElem hi) holds fun earlier he c' hc => ?_
      rw [List.getElem?_eq_getElem (he.trans hi)] at hc
      obtain rfl := Option.some.inj hc
      exact first earlier he
    next h =>
      refine .default fun c hc => ?_
      simpa using List.findIdx?_eq_none_iff.mp h c hc

/-- There is an output for the default and one for each case. -/
theorem Selects.le_length {ignoreCase : Bool} {value : Value} {cases : List SwitchCase} {port : Nat}
    (h : Selects ignoreCase value cases port) : port ≤ cases.length := by
  cases h with
  | case found => exact (List.getElem?_eq_some_iff.mp found).1
  | default => exact Nat.zero_le _

/-- What the interpreter makes of a switch with certain outputs. -/
structure FollowsCases (limit : Nat) (exchange : Http.Exchange) (draws : Draws) (graph : Graph)
    (v : Node) (ports : Ports) : Prop where
  executor : (builtin limit exchange draws).executorOf v.kind = Execute.switch
  /-- It follows the output that the value selects, and that is an output for control. -/
  follows {visit : Node → RunM Unit} {m m₁ : Machine} {value : Value} :
    let s := (builtin limit exchange draws).setting graph
    (s.input v 1).run m = (some value, m₁) →
    ∃ port text, Selects ((s.props v).flag "ignoreCase") value v.switchCases port ∧
      ports.outputKind? port = some .control ∧
      (Execute.switch s visit v).run.run m = (.ok (.follow port), m₁.logged [.trace text])
  /-- Without a value it reports a failure and follows none. -/
  missing {visit : Node → RunM Unit} {m m₁ : Machine} :
    let s := (builtin limit exchange draws).setting graph
    (s.input v 1).run m = (none, m₁) →
    ∃ fault, (Execute.switch s visit v).run.run m =
      (.ok .halt, m₁.logged [.failure ⟨v.id, v.kind, fault⟩])

theorem followsCases (limit : Nat) (exchange : Http.Exchange) (draws : Draws) (graph : Graph)
    {v : Node} (hk : v.kind = Kind.switch.name) {ports : Ports}
    (serve : ports.ServeCases v.switchCases) :
    FollowsCases limit exchange draws graph v ports where
  executor := by rw [Interpreter.executorOf_builtin, hk, Kind.ofName?_name]; rfl
  follows {visit m m₁ value} := by
    intro s given
    let port := Execute.casePort ((s.props v).flag "ignoreCase") value (s.cases v)
    have selects : Selects ((s.props v).flag "ignoreCase") value v.switchCases port := by
      rw [← s.cases_eq rfl hk]
      exact selects_iff.mpr rfl
    refine ⟨port, s!"Switch on {display value} takes output {port}", selects,
      serve.control selects.le_length, deciding_run_of_ok ?_⟩
    rw [run_bind_of_ok (s.requireInput_of_some given)]
    exact run_lift_bind (log_run _ m₁)
  missing {visit m m₁} := by
    intro s missing
    exact ⟨_, deciding_run_of_error (run_bind_of_error (s.requireInput_of_none missing))⟩

end Script

/-- The outputs of a switch, the blocks that the generator writes and the choice of the interpreter
are about the same cases, whatever its properties hold: the well-formed ones, in their order. -/
theorem switch_linesUp (options : Source.Options) (limit : Nat) (exchange : Http.Exchange)
    (draws : Script.Draws) (graph : Graph) (v : Node) (hk : v.kind = Kind.switch.name) :
    ∃ ports, Registry.builtin.portsOf? v = some ports ∧ ports.ServeCases v.switchCases ∧
      Source.WritesCases options graph v ∧
      Script.FollowsCases limit exchange draws graph v ports :=
  ⟨_, Registry.portsOf?_builtin hk, serveCases v, Source.writesCases options graph hk,
    Script.followsCases limit exchange draws graph hk (serveCases v)⟩

/-- A switch between whose two cases stand entries that are none. -/
def gappedSwitch : Node where
  id := .ofNat 2
  kind := Kind.switch.name
  properties := [("cases", .array [.null,
    .object [("outputLabel", .string "A"), ("value", .string "a")], .bool true,
    .array [.string "b"]])]

/-- A text that a switch looks at. -/
def switchOnText : Graph :=
  .ofLists [gappedSwitch, { id := .ofNat 3, kind := Kind.jsonParse.name }]
    [.between (.ofNat 3) 1 (.ofNat 2) 1]

theorem gappedSwitch_linesUp :
    let i := Script.builtin 0 .unreachable (.ofSeed 0)
    let s := i.setting switchOnText
    let m : Script.Machine := { outputs := ⟨[(⟨.ofNat 3, 1⟩, .string "b")]⟩ }
    gappedSwitch.kind = Kind.switch.name ∧
      (∃ ports, Registry.builtin.portsOf? gappedSwitch = some ports ∧
        ports.outputs.map (·.name) = ["Default", "A", "Case 2"]) ∧
      ∀ visit, ((Script.Execute.switch s visit gappedSwitch).run.run m).1 = .ok (.follow 2) := by
  intro i s m
  obtain ⟨ports, derived, -, -, follows⟩ :=
    switch_linesUp {} 0 .unreachable (.ofSeed 0) switchOnText gappedSwitch rfl
  refine ⟨rfl, ⟨ports, derived, ?_⟩, fun visit => ?_⟩
  · rw [← Option.some.inj derived]
    decide +kernel
  · have source : (s.producer? gappedSwitch 1).map (fun p => (PortRef.mk p.1.id p.2, p.1.kind)) =
        some (⟨.ofNat 3, 1⟩, Kind.jsonParse.name) := by
      decide +kernel
    obtain ⟨⟨u, output⟩, wired, he⟩ := Option.map_eq_some_iff.mp source
    obtain ⟨place, kind⟩ : PortRef.mk u.id output = ⟨.ofNat 3, 1⟩ ∧ u.kind = Kind.jsonParse.name :=
      Prod.mk.inj he
    have computed : u.kind ≠ Kind.var.name := kind ▸ by decide
    have unnamed : s.producerVariable? gappedSwitch 1 = none := by
      simp only [Script.Setting.producerVariable?, wired, if_neg computed]
    have given : (s.input gappedSwitch 1).run m = (some (.string "b"), m) := by
      rw [s.input_run, s.withProducer_of_unwired unnamed, Workspace.resolveInput, wired]
      simp only [if_neg computed, place]
      rfl
    obtain ⟨port, text, selects, -, run⟩ := follows.follows given
    have second : port = 2 := by
      rw [← Script.selects_iff.mp selects]
      decide +kernel
    rw [run, second]

end ScriptGraph
