import ScriptGraph.Proofs.Script.Reached

/-! # The store of variables

At every moment of a run the variables that have values are variables of the graph, and they have
values from then on. Whoever is wired to a variable with a name always reads the value that the
store has for it.
-/

namespace ScriptGraph.Script

variable {s : Setting} {v : Node} {pending : List Node} {m : Machine}

/-- Whatever has a value is a variable of the graph. -/
theorem Reached.isVariable (h : Reached s pending m) {name : String}
    (hb : m.bindings.contains name) : s.IsVariable name := by
  induction h with
  | start => cases hb
  | effect _ step ih =>
    cases step with
    | store value hn =>
      rcases (Table.contains_insert ..).mp hb with rfl | hb
      · exact hn
      · exact ih hb
    | tell | draw | send | record => exact ih hb
  | enter _ _ ih | report _ _ ih | settle _ ih | iterate _ _ ih | leave _ _ ih => exact ih hb

/-- What a variable behind an input gives is its value in the store after it has been read. -/
theorem input_of_producer {index output : Nat} {u : Node}
    (hp : s.producer? v index = some (u, output)) (hk : u.kind = Kind.var.name) :
    ((s.input v index).run m).1 =
      ((s.input v index).run m).2.bindings.get? (s.variableName u) := by
  rw [Setting.input_run, Workspace.resolveInput, hp]
  simp [hk, Setting.outputSource]

/-- What an input gives that is wired to a node which keeps no value by itself is what has been
recorded. -/
theorem input_eq_recorded {u : Node} {index port : Nat}
    (hp : s.producer? v index = some (u, port))
    (hk : u.kind ≠ Kind.var.name ∧ u.kind ≠ Kind.constant.name) :
    ((s.input v index).run m).1 = m.outputs.get? ⟨u.id, port⟩ := by
  rw [Setting.input_run, ← s.outputs_withProducer v index m]
  exact Workspace.resolveInput_of_producer hp hk.1 (if_neg hk.2)

theorem isSome_input_of_producer (hm : m.Nameless) {index output : Nat} {u : Node}
    (hp : s.producer? v index = some (u, output)) (hk : u.kind = Kind.var.name) :
    ((s.input v index).run m).1.isSome ↔ s.variableName u ≠ "" := by
  rw [isSome_input hm, Workspace.offers, hp]
  simp [hk, Setting.variableName, Setting.props]

/-- The state is one of a run: what has been recorded and the values of variables are what those
events say that have happened until then. -/
structure Interpreter.Moment (i : Interpreter) (graph : Graph) (m : Machine) : Prop where
  told : m.Told
  before : m.log.toList <+: (i.run graph).log

theorem Interpreter.Occurs.moment {i : Interpreter} {graph : Graph} (h : i.Occurs graph m) :
    i.Moment graph m :=
  ⟨h.told, h.before⟩

/-- The variables of a run and who reads them. -/
structure Interpreter.KeepsStore (i : Interpreter) (graph : Graph) : Prop where
  ends : i.Moment graph (i.machine graph)
  /-- There is such a state after each event. -/
  moment {es : List Event} (he : es <+: (i.run graph).log) :
    ∃ m, i.Moment graph m ∧ m.log.toList = es
  /-- Whatever has a value is a variable of the graph. -/
  named {m : Machine} (hm : i.Moment graph m) {name : String} (h : m.bindings.contains name) :
    (i.setting graph).IsVariable name
  /-- What has a value has one from then on. -/
  kept {m m' : Machine} (hm : i.Moment graph m) (hm' : i.Moment graph m')
    (later : m.log.toList <+: m'.log.toList) {name : String} (h : m.bindings.contains name) :
    m'.bindings.contains name
  /-- An input that is wired to a variable gives a value if the variable has a name, and then the
  one that the store has for it. -/
  read {m : Machine} (hm : i.Moment graph m) {v u : Node} {index output : Nat}
    (hp : (i.setting graph).producer? v index = some (u, output)) (hk : u.kind = Kind.var.name) :
    let read := ((i.setting graph).input v index).run m
    let name := (i.setting graph).variableName u
    (read.1.isSome ↔ name ≠ "") ∧ read.1 = read.2.bindings.get? name

theorem run_keepsStore (registry : Registry) (limit : Nat) (exchange : Http.Exchange)
    (draws : Draws) (debug : Bool) (graph : Graph) :
    let i : Interpreter := { registry, maxLoopIterations := limit, exchange, draws, debug }
    i.KeepsStore graph := by
  intro i
  have course := Interpreter.course registry limit exchange draws debug graph
  have same {m : Machine} (hm : i.Moment graph m) : ∃ pending m',
      Reached (i.setting graph) pending m' ∧ m.bindings = m'.bindings := by
    obtain ⟨m', h, log⟩ := course.after hm.before
    obtain ⟨pending, reached⟩ := h.reached
    exact ⟨pending, m', reached, by rw [hm.told.bindings, h.told.bindings, log]⟩
  exact {
    ends := course.ends.moment
    moment := fun he => by
      obtain ⟨m, h, log⟩ := course.after he
      exact ⟨m, h.moment, log⟩
    named := fun hm name hb => by
      obtain ⟨pending, m', h, eq⟩ := same hm
      exact h.isVariable (eq ▸ hb)
    kept := fun hm hm' later name hb => by
      obtain ⟨after, later⟩ := later
      rw [hm.told.bindings] at hb
      rw [hm'.told.bindings, ← later]
      exact Table.contains_replay_append hb after
    read := fun {m} hm v u index output hp hk => by
      obtain ⟨pending, m', h, eq⟩ := same hm
      have nameless : m.Nameless := by
        rw [Machine.Nameless, eq]
        exact h.nameless
      exact ⟨isSome_input_of_producer nameless hp hk, input_of_producer hp hk⟩ }

end ScriptGraph.Script
