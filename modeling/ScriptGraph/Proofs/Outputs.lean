import ScriptGraph.Proofs.Script.Debugging
import ScriptGraph.Proofs.Script.Store
import ScriptGraph.Proofs.Source.Act

/-! # Outputs with values

Values are recorded on outputs for data only, and never by variables or constants. Whoever is wired
to another output of any other node is given nothing, in the generator and in the interpreter.
-/

namespace ScriptGraph

namespace Workspace

variable {w : Workspace} {α : Type} {t : Table PortRef α} {v : Node}

/-- Everything was recorded on an outlet of a node of the graph that keeps no value by itself. -/
def FromOutlets (w : Workspace) (has : PortRef → Bool) : Prop :=
  ∀ output, has output → ∃ v ∈ w.graph.nodes.toList, v.id = output.node ∧
    (v.kind ≠ Kind.var.name ∧ v.kind ≠ Kind.constant.name) ∧ w.Outlet v output.port

theorem FromOutlets.insert (h : w.FromOutlets t.contains) (hv : v ∈ w.graph.nodes.toList)
    (hk : v.kind ≠ Kind.var.name ∧ v.kind ≠ Kind.constant.name) {port : Nat}
    (hp : w.Outlet v port) (value : α) : w.FromOutlets (t.insert ⟨v.id, port⟩ value).contains := by
  intro output ho
  rcases (Table.contains_insert ..).mp ho with rfl | ho
  · exact ⟨v, hv, rfl, hk, hp⟩
  · exact h output ho

/-- What is recorded, and what inputs give, has to do with outputs for data only. -/
structure ValuesOnData (w : Workspace) (has : PortRef → Bool) (input : Node → Nat → Option α) :
    Prop where
  recorded {output : PortRef} (h : has output) : ∃ v, w.graph.findNode output.node = some v ∧
    v.kind ≠ Kind.var.name ∧ v.kind ≠ Kind.constant.name ∧ w.IsData v output.port
  unread {v u : Node} {index port : Nat} (hp : w.producer? v index = some (u, port))
    (hk : u.kind ≠ Kind.var.name ∧ u.kind ≠ Kind.constant.name) (hd : ¬ w.IsData u port) :
    input v index = none

theorem FromOutlets.valuesOnData (hr : w.registry = .builtin)
    (hids : (w.graph.nodes.toList.map (·.id)).Nodup) {has : PortRef → Bool}
    (h : w.FromOutlets has) (ht : ∀ output, t.contains output → has output)
    {input : Node → Nat → Option α}
    (hi : ∀ {v u : Node} {index port : Nat}, w.producer? v index = some (u, port) →
      u.kind ≠ Kind.var.name ∧ u.kind ≠ Kind.constant.name →
        input v index = t.get? ⟨u.id, port⟩) : w.ValuesOnData t.contains input := by
  have recorded (output : PortRef) (ho : t.contains output) :
      ∃ v, w.graph.findNode output.node = some v ∧
        v.kind ≠ Kind.var.name ∧ v.kind ≠ Kind.constant.name ∧ w.IsData v output.port := by
    obtain ⟨v, hv, hid, hk, hp⟩ := h output (ht output ho)
    exact ⟨v, hid ▸ Graph.findNode_of_mem hids hv, hk.1, hk.2, hp.isData hr⟩
  refine ⟨recorded _, fun {v u index port} hp hk hd => ?_⟩
  rw [hi hp hk]
  by_contra hne
  obtain ⟨u', hu, -, -, hd'⟩ := recorded ⟨u.id, port⟩ (Option.isSome_iff_ne_none.mpr hne)
  rw [findNode_of_producer? hp] at hu
  obtain rfl := Option.some.inj hu
  exact hd hd'

end Workspace

/-! ### The interpreter -/

namespace Script

variable {s : Setting} {m m' : Machine} {r : Route}

theorem Own.fromOutlets {v : Node} {has : PortRef → Bool} (h : Own v (s.results has v) m m')
    (hv : v ∈ s.graph.nodes.toList) (hm : s.FromOutlets m.outputs.contains) :
    s.FromOutlets m'.outputs.contains := by
  intro output ho
  rcases h.contains_outputs ho with ho | ⟨port, hp, rfl⟩
  · exact hm output ho
  · exact ⟨v, hv, rfl, Workspace.outlet_of_mem_results hp⟩

theorem fromOutlets_of_walks (h : Walks (traversal s) s.toWorkspace m r m')
    (hm : s.FromOutlets m.outputs.contains) : s.FromOutlets m'.outputs.contains := by
  induction h with
  | stop => exact hm
  | pause hp _ ih =>
    obtain ⟨v, _, _, own⟩ := hp
    refine ih fun output ho => ?_
    rcases Own.contains_outputs own ho with ho | ⟨port, hp, -⟩
    · exact hm output ho
    · cases hp
  | seen _ _ ih => exact ih hm
  | enter hv _ hw _ _ ihi ihr => exact ihr (ihi (Own.fromOutlets hw.own hv hm))
  | inside ho _ hc _ ihb ihr =>
    obtain ⟨_, rfl⟩ := ho
    obtain rfl := hc
    exact ihr (ihb hm)

theorem Interpreter.Moment.valuesOnData {limit : Nat} {exchange : Http.Exchange} {draws : Draws}
    {debug : Bool} {graph : Graph} (hids : (graph.nodes.toList.map (·.id)).Nodup)
    (hm : ((builtin limit exchange draws).withDebug debug).Moment graph m) :
    Workspace.ValuesOnData ⟨graph, .builtin⟩ m.outputs.contains fun v index =>
      ((((builtin limit exchange draws).setting graph).input v index).run m).1 := by
  have walks := walks_machine limit exchange draws graph
  have told := told_machine limit exchange draws graph
  obtain ⟨after, he⟩ := hm.before
  rw [run_withDebug] at he
  have recorded := fromOutlets_of_walks walks fun _ h => nomatch h
  refine recorded.valuesOnData rfl hids (fun output ho => ?_) input_eq_recorded
  rw [hm.told.outputs] at ho
  rw [told.outputs, show ((builtin limit exchange draws).machine graph).log.toList = _ from he.symm]
  exact Table.contains_replay_append ho after

end Script

/-! ### The generator -/

namespace Source

variable {s : Setting} {d d' : Draft}

theorem Act.fromOutlets (h : Act s d d') (hd : s.FromOutlets d.outputs.contains) :
    s.FromOutlets d'.outputs.contains := by
  cases h with
  | record port expression hv due hp =>
    exact hd.insert (s.mem_nodes_of_reachable hv) due.store hp expression
  | _ => exact hd

/-- The state is one of a pass: what has been recorded is what those events say that have happened
until then. -/
structure Generator.Moment (g : Generator) (graph : Graph) (d : Draft) : Prop where
  told : d.Told
  before : d.log.toList <+: (g.draft graph).log.toList

theorem Generator.Occurs.moment {g : Generator} {graph : Graph} (h : g.Occurs graph d) :
    g.Moment graph d :=
  ⟨h.told, h.before⟩

theorem input_eq_recorded {v u : Node} {index port : Nat}
    (hp : s.producer? v index = some (u, port))
    (hk : u.kind ≠ Kind.var.name ∧ u.kind ≠ Kind.constant.name) :
    ((s.input v index).run d).1 = d.outputs.get? ⟨u.id, port⟩ := by
  rw [Setting.input_run]
  exact Workspace.resolveInput_of_producer hp hk.1 (if_neg hk.2)

theorem Generator.Moment.valuesOnData {options : Options} {graph : Graph}
    (hids : (graph.nodes.toList.map (·.id)).Nodup) (hd : (builtin options).Moment graph d) :
    Workspace.ValuesOnData ⟨graph, .builtin⟩ d.outputs.contains fun v index =>
      ((((builtin options).setting graph).input v index).run d).1 := by
  have recorded := holds_of_acts (acts_draft options .builtin graph) (fun _ h => nomatch h)
    fun _ _ h => h.fromOutlets
  have told := told_draft options graph
  obtain ⟨after, he⟩ := hd.before
  refine Workspace.FromOutlets.valuesOnData rfl hids recorded (fun output ho => ?_)
    input_eq_recorded
  rw [hd.told] at ho
  rw [told, ← he]
  exact Table.contains_replay_append ho after

end Source

/-- In graphs in which the ids of nodes are different: at every moment of a pass and of a run, what
has been recorded is on outputs for data of nodes that are neither variables nor constants, and who
is wired to another output of such a node is given nothing. The states that occur in the pass and in
the run are such moments. -/
theorem values_on_data (options : Source.Options) (limit : Nat) (exchange : Http.Exchange)
    (draws : Script.Draws) (debug : Bool) (graph : Graph)
    (hids : (graph.nodes.toList.map (·.id)).Nodup) :
    let w : Workspace := ⟨graph, .builtin⟩
    let g := Source.builtin options
    let i := (Script.builtin limit exchange draws).withDebug debug
    (g.Course graph ∧ ∀ d, g.Occurs graph d → g.Moment graph d) ∧
    (i.Course graph ∧ ∀ m, i.Occurs graph m → i.Moment graph m) ∧
    (∀ d, g.Moment graph d →
      w.ValuesOnData d.outputs.contains fun v index =>
        (((g.setting graph).input v index).run d).1) ∧
    ∀ m, i.Moment graph m →
      w.ValuesOnData m.outputs.contains fun v index =>
        (((i.setting graph).input v index).run m).1 := by
  intro w g i
  have pass : g.Course graph := Source.Generator.course options .builtin graph
  have run : i.Course graph :=
    Script.Interpreter.course .builtin limit exchange draws debug graph
  exact ⟨⟨pass, fun _ hd => hd.moment⟩, ⟨run, fun _ hm => hm.moment⟩,
    fun _ hd => hd.valuesOnData hids, fun _ hm => hm.valuesOnData hids⟩

/-- A text that is parsed, and a line that is wired to the control output of the parser. -/
def wiredToControl : Graph :=
  .ofLists
    [{ id := .ofNat 1, kind := Kind.onStart.name },
      { id := .ofNat 2, kind := Kind.jsonParse.name },
      { id := .ofNat 3, kind := Kind.log.name },
      { id := .ofNat 4, kind := Kind.constant.name, properties := [("value", .string "true")] }]
    [.between (.ofNat 1) 0 (.ofNat 2) 0, .between (.ofNat 2) 0 (.ofNat 3) 0,
      .between (.ofNat 4) 0 (.ofNat 2) 1, .between (.ofNat 2) 0 (.ofNat 3) 1]

/-- The parser has a result in both passes, and the line is given nothing. -/
theorem wiredToControl_unread :
    let ids := wiredToControl.nodes.toList.map (·.id)
    let g := Source.builtin {}
    let i := (Script.builtin 10 .unreachable (.ofSeed 0)).withDebug true
    let line : Node := { id := .ofNat 3, kind := Kind.log.name }
    ids.Nodup ∧
      ((g.draft wiredToControl).outputs.contains ⟨.ofNat 2, 1⟩ ∧
        (((g.setting wiredToControl).input line 1).run (g.draft wiredToControl)).1 = none) ∧
      (i.machine wiredToControl).outputs.contains ⟨.ofNat 2, 1⟩ ∧
        (((i.setting wiredToControl).input line 1).run (i.machine wiredToControl)).1 = none := by
  intro ids g i line
  have hids : ids.Nodup := by decide +kernel
  obtain ⟨⟨pass, _⟩, ⟨course, _⟩, text, run⟩ :=
    values_on_data {} 10 .unreachable (.ofSeed 0) true wiredToControl hids
  have drafted := text _ pass.ends.moment
  have executed := run _ course.ends.moment
  let w : Workspace := ⟨wiredToControl, .builtin⟩
  have wired : (w.producer? line 1).any fun source =>
      source.2 = 0 && source.1.kind = Kind.jsonParse.name && !w.IsData source.1 0 := by
    decide +kernel
  simp only [Option.any_eq_true, Bool.and_eq_true, decide_eq_true_eq, Bool.not_eq_true',
    decide_eq_false_iff_not] at wired
  obtain ⟨⟨u, _⟩, hp, ⟨rfl, hk⟩, hd⟩ := wired
  have computed : u.kind ≠ Kind.var.name ∧ u.kind ≠ Kind.constant.name := by
    rw [hk]
    decide
  exact ⟨hids, ⟨by decide +kernel, drafted.unread hp computed hd⟩, by decide +kernel,
    executed.unread hp computed hd⟩

end ScriptGraph
