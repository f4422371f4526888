import ScriptGraph.Proofs.Source.DepthFirst
import ScriptGraph.Proofs.Walk.Replay

/-! # The log of a generation pass

What a pass offers to readers of inputs at some moment can be told from what it has logged until
then.
-/

namespace ScriptGraph.Source

/-- The record that an event makes. -/
def Event.record? : Event → Option (PortRef × String)
  | .record output expression => some (output, expression)
  | _ => none

/-- A state in which certain events have happened, with all that readers of inputs ask for. -/
def Draft.after (es : List Event) : Draft :=
  { depth := routineDepth, outputs := Table.replay Event.record? es }

/-- What has been recorded is what the log says. -/
def Draft.Told (d : Draft) : Prop :=
  d.outputs = Table.replay Event.record? d.log.toList

theorem Draft.Told.logged {d : Draft} (hd : d.Told) {es : List Event}
    (h : ∀ e ∈ es, e.record? = none) : (d.logged es).Told := by
  unfold Draft.Told
  rw [Draft.log_logged, Table.replay_append_of_none h]
  exact hd

theorem Draft.Told.event {d : Draft} (hd : d.Told) {e : Event} (he : e.record? = none) :
    (d.logged [e]).Told :=
  hd.logged fun _ hm => by rwa [List.mem_singleton.mp hm]

theorem Prose.record?_eq {temporaries : List String} {es : List Event}
    (h : Prose temporaries es) : ∀ e ∈ es, e.record? = none := by
  intro e he
  have prose := h.isProse e he
  cases e with
  | write | blank | indent | dedent => rfl
  | _ => cases prose

section

variable {s : Setting} {v : Node} {d d' : Draft} {r : Route}

theorem record?_declaration (v : Node) (assigned : Option String) (depth : Nat) :
    ∀ e ∈ s.declaration v assigned depth, e.record? = none := by
  unfold Setting.declaration
  split <;> simp [Event.record?]

theorem Draft.Told.recorded (hd : d.Told) (output : PortRef) (expression : String) :
    Draft.Told { d.logged [.record output expression] with
      outputs := d.outputs.insert output expression } := by
  change d.outputs.insert output expression =
    Table.replay Event.record? (d.logged [.record output expression]).log.toList
  rw [Draft.log_logged, Table.replay_concat, ← hd]
  rfl

theorem Draft.Told.declared (hd : d.Told) (v : Node) (assigned : Option String) :
    (s.declared v assigned d).Told :=
  hd.logged (record?_declaration v assigned d.depth)

theorem Draft.Told.withProducer (hd : d.Told) (v : Node) (index : Nat) :
    (s.withProducer v index d).Told := by
  unfold Setting.withProducer
  split
  · exact hd
  · exact hd.declared _ none

theorem Operation.told (h : Operation s v d d') (hd : d.Told) : d'.Told := by
  cases h with
  | prose hp => exact hd.logged hp.record?_eq
  | read index =>
    rw [Setting.input_run]
    exact (hd.withProducer v index).event rfl
  | @fresh base =>
    change (d.logged [.fresh (d.names.unique base).1]).Told
    exact hd.event rfl
  | bind => exact hd.event rfl
  | declare assigned =>
    rw [Setting.declareVariable_run]
    exact hd.declared v assigned
  | assign value => exact hd.event rfl
  | record port expression => exact hd.recorded ⟨v.id, port⟩ expression

theorem Own.told (h : Own s v d d') (hd : d.Told) : d'.Told := by
  induction h with
  | refl => exact hd
  | tail _ h ih => exact h.told ih

theorem Draft.Told.began (hd : d.Told) (v : Node) : (began v d).Told :=
  hd.event (rfl : (Event.node v.id).record? = none)

theorem Draft.Told.opened (hd : d.Told) : (opened d).Told :=
  hd.event (rfl : Event.indent.record? = none)

theorem Draft.Told.closed (hd : d.Told) : (closed d).Told :=
  hd.event (rfl : Event.dedent.record? = none)

theorem preserves_told : (traversal s).Preserves Draft.Told where
  enter hd _ hw := hw.own.told (hd.began _)
  pause hd hp := by
    obtain ⟨es, hp, rfl⟩ := hp
    exact hd.logged hp.record?_eq
  opens hd ho := by
    obtain rfl := ho
    exact hd.opened
  closes _ hd hc := by
    obtain rfl := hc
    exact hd.closed

theorem told_draft (options : Options) (graph : Graph) : ((builtin options).draft graph).Told :=
  preserves_told.walks (Generator.walks_draft options graph) rfl

/-- Whether an input gives an expression. -/
theorem isSome_input (v : Node) (index : Nat) (d : Draft) :
    ((s.input v index).run d).1.isSome = s.offers d.outputs.contains v index := by
  rw [← s.isSome_given, Setting.input_run]
  rfl

end

end ScriptGraph.Source
