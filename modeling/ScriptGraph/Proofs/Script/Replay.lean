import ScriptGraph.Proofs.Script.Traversal
import ScriptGraph.Proofs.Walk.Replay

/-! # The log of a run

What a run offers to readers of inputs at some moment can be told from what it has logged until
then.
-/

namespace ScriptGraph.Script

open Json (Value)

/-- The record that an event makes. -/
def Event.record? : Event → Option (PortRef × Value)
  | .record output value => some (output, value)
  | _ => none

/-- The value that an event gives to a variable. -/
def Event.bind? : Event → Option (String × Value)
  | .bind name value => some (name, value)
  | _ => none

/-- A state in which certain events have happened, with all that readers of inputs ask for. -/
def Machine.after (es : List Event) : Machine :=
  { outputs := Table.replay Event.record? es, bindings := Table.replay Event.bind? es }

/-- What has been recorded, and the values of variables, are what the log says. -/
structure Machine.Told (m : Machine) : Prop where
  outputs : m.outputs = Table.replay Event.record? m.log.toList
  bindings : m.bindings = Table.replay Event.bind? m.log.toList

namespace Machine.Told

variable {m : Machine}

theorem event (hm : m.Told) {e : Event} (hr : e.record? = none) (hb : e.bind? = none) :
    (m.logged [e]).Told := by
  have none {α : Type} {put? : Event → Option α} (h : put? e = none) :
      ∀ e' ∈ [e], put? e' = none := fun _ he => by rwa [List.mem_singleton.mp he]
  constructor
  · rw [log_logged, Table.replay_append_of_none (none hr)]
    exact hm.outputs
  · rw [log_logged, Table.replay_append_of_none (none hb)]
    exact hm.bindings

theorem bound (hm : m.Told) (name : String) (value : Value) : (m.bound name value).Told := by
  constructor
  · change m.outputs = Table.replay _ (m.logged [.bind name value]).log.toList
    rw [log_logged, Table.replay_concat]
    exact hm.outputs
  · change m.bindings.insert name value =
      Table.replay Event.bind? (m.logged [.bind name value]).log.toList
    rw [log_logged, Table.replay_concat, ← hm.bindings]
    rfl

theorem recorded (hm : m.Told) (output : PortRef) (value : Value) :
    (m.recorded output value).Told := by
  constructor
  · change m.outputs.insert output value =
      Table.replay Event.record? (m.logged [.record output value]).log.toList
    rw [log_logged, Table.replay_concat, ← hm.outputs]
    rfl
  · change m.bindings = Table.replay _ (m.logged [.record output value]).log.toList
    rw [log_logged, Table.replay_concat]
    exact hm.bindings

theorem began (hm : m.Told) (v : Node) : (began v m).Told :=
  have node := hm.event (rfl : (Event.node v.id).record? = none) rfl
  ⟨node.outputs, node.bindings⟩

end Machine.Told

section

variable {s : Setting} {v : Node} {ports : List Nat} {m m' : Machine} {r : Route}

theorem Operation.told {reports : Bool} (h : Operation v ports reports m m') (hm : m.Told) :
    m'.Told := by
  cases h with
  | @tell e he =>
    cases e with
    | node | iteration | record | bind | failure => cases he
    | _ => exact hm.event rfl rfl
  | bind value => exact hm.bound _ value
  | draw => exact ⟨hm.outputs, hm.bindings⟩
  | send => exact ⟨hm.outputs, hm.bindings⟩
  | record value => exact hm.recorded _ value
  | report => exact hm.event rfl rfl

theorem Own.told (h : Own v ports m m') (hm : m.Told) : m'.Told := by
  induction h with
  | refl => exact hm
  | tail _ h ih => exact h.told ih

theorem preserves_told : (traversal s).Preserves Machine.Told where
  enter hm _ hw := hw.own.told (hm.began _)
  pause hm hp := by
    obtain ⟨_, _, _, own⟩ := hp
    exact Own.told own hm
  opens hm ho := by
    obtain ⟨body, rfl⟩ := ho
    exact hm.event (rfl : (Event.iteration body).record? = none) rfl
  closes _ hm hc := by
    obtain rfl := hc
    exact ⟨hm.outputs, hm.bindings⟩

/-- Whether an input gives a value. -/
theorem isSome_input (hm : m.Nameless) (v : Node) (index : Nat) :
    ((s.input v index).run m).1.isSome = s.offers m.outputs.contains v index := by
  rw [Setting.input_run]
  exact s.isSome_input hm v index

end

theorem told_machine (limit : Nat) (exchange : Http.Exchange) (draws : Draws) (graph : Graph) :
    ((builtin limit exchange draws).machine graph).Told :=
  preserves_told.walks (Interpreter.walks_machine limit exchange draws graph) ⟨rfl, rfl⟩

end ScriptGraph.Script
