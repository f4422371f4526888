import ScriptGraph.Proofs.Script.Operation

/-! # Reading

What executors do to find out what to do with: they tell how things go, read inputs and variables,
draw and send. Of all that others can see, reading changes the values of variables only, and only of
those that have none.
-/

namespace ScriptGraph.Script

open Json (Value)

variable {s : Setting} {v : Node} {α : Type}

/-- One thing that an executor does at a node before it stores or records something. -/
inductive Reading (s : Setting) (v : Node) : Machine → Machine → Prop where
  | tell (m : Machine) {e : Event} : e.isQuiet → Reading s v m (m.logged [e])
  | draw (m : Machine) : Reading s v m { m with drawn := m.drawn + 1 }
  | send (m : Machine) : Reading s v m { m with sent := m.sent + 1 }
  | input (m : Machine) (index : Nat) : Reading s v m (s.withProducer v index m)

namespace Reading

variable {ports : List Nat} {reports : Bool} {outputs : Table PortRef Value} {m m' : Machine}

theorem operations (h : Reading s v m m') :
    Relation.ReflTransGen (Operation v ports reports) m m' := by
  cases h with
  | tell he => exact .single (.tell m he)
  | draw => exact .single (.draw m)
  | send => exact .single (.send m)
  | input index => exact operations_withProducer m index

theorem knows (h : Reading s v m m') (hm : Knows outputs m) : Knows outputs m' := by
  cases h with
  | input index => exact hm.withProducer v index
  | tell | draw | send => exact hm

end Reading

/-- The program does no more than to read. -/
abbrev Reads (s : Setting) (v : Node) (x : RunM α) : Prop :=
  Takes (Reading s v) (fun _ => True) x fun _ _ => True

/-- Whether the program fails or not, it does no more than to read. -/
abbrev Checks (s : Setting) (v : Node) (x : ExceptT Fault RunM α) : Prop :=
  Tries (Reading s v) (fun _ => True) x fun _ _ => True

section

variable {ports : List Nat} {reports : Bool} {outputs : Table PortRef Value}

theorem Reads.takes {x : RunM α} (h : Reads s v x) :
    Takes (Operation v ports reports) (Knows outputs) x fun _ => Knows outputs :=
  (h.keeping fun _ _ => Reading.knows).expand fun _ _ => Reading.operations

theorem Checks.tries {x : ExceptT Fault RunM α} (h : Checks s v x) :
    Tries (Operation v ports reports) (Knows outputs) x fun _ => Knows outputs :=
  (h.keeping fun _ _ => Reading.knows).expand fun _ _ => Reading.operations

end

theorem Reads.of_run {x : RunM α} (h : ∀ m, Reading s v m (x.run m).2) : Reads s v x :=
  .single fun m _ => ⟨h m, trivial⟩

theorem reads_pure (a : α) : Reads s v (pure a) :=
  .pure fun _ _ => trivial

theorem checks_pure (a : α) : Checks s v (pure a) :=
  .pure fun _ _ => trivial

theorem checks_except (y : Except Fault α) : Checks s v (liftM y) :=
  .liftExcept fun _ _ _ _ => trivial

theorem reads_trace (text : String) : Reads s v (trace text) :=
  .of_run fun m => by
    rw [trace, log_run]
    exact .tell m rfl

theorem reads_draw : Reads s v s.draw :=
  .of_run .draw

theorem reads_send (request : Http.Request) : Reads s v (s.send request) := by
  intro m _
  rw [send_run]
  exact ⟨.tail (.single (.send m)) (.tell _ rfl), trivial⟩

theorem reads_input (index : Nat) : Reads s v (s.input v index) :=
  .of_run fun m => by
    rw [s.input_run]
    exact .input m index

theorem checks_requireInput (index : Nat) : Checks s v (s.requireInput v index) := by
  unfold Setting.requireInput
  refine Tries.bind (.lift (reads_input index)) fun value => ?_
  cases value with
  | none => exact .throw _
  | some value => exact checks_pure value

theorem reads_variableValue? (name : String) : Reads s v (variableValue? name) :=
  fun _ _ => ⟨.refl, trivial⟩

theorem reads_argumentValue (text : String) : Reads s v (Execute.argumentValue text) := by
  unfold Execute.argumentValue
  refine .bind (reads_variableValue? _) fun value => ?_
  cases value with
  | some value => exact reads_pure value
  | none =>
    dsimp only
    split
    · exact reads_pure _
    · exact reads_pure _

theorem reads_drawText (charset : Array Char) (length : Nat) (drawn : List Char) :
    Reads s v (Execute.drawText s charset length drawn) := by
  induction length generalizing drawn with
  | zero => exact reads_pure _
  | succ length ih => exact .bind reads_draw fun _ => ih _

theorem checks_randomValue : Checks s v (Execute.randomValue s v) := by
  unfold Execute.randomValue
  dsimp only
  split
  · exact .bind (.lift reads_draw) fun _ => checks_except _
  · exact .check fun _ => .bind (.lift (reads_drawText _ _ _)) fun _ => checks_pure _
  · exact .bind (.lift reads_draw) fun _ => checks_pure _
  · exact .throw _

theorem checks_updateArray (operation argument : String) (items : List Value) :
    Checks s v (Execute.updateArray operation argument items) := by
  unfold Execute.updateArray
  split
  · exact .bind (.lift (reads_argumentValue _)) fun _ => checks_pure _
  · exact .bind (.lift (reads_argumentValue _)) fun _ => checks_pure _
  · exact checks_pure _
  · exact checks_pure _
  · exact .bind (checks_except _) fun _ => checks_pure _
  · exact .throw _

theorem checks_updateObject (operation key value : String) (members : Json.Members) :
    Checks s v (Execute.updateObject operation key value members) := by
  unfold Execute.updateObject
  split
  · exact checks_pure _
  · exact .bind (.lift (reads_argumentValue _)) fun _ => checks_pure _
  · exact checks_pure _
  · exact checks_pure _
  · exact .throw _

theorem checks_sendRequest (request : Http.Request) :
    Checks s v (Execute.sendRequest s request) := by
  unfold Execute.sendRequest
  refine .bind (.lift (reads_send request)) fun response => ?_
  cases response with
  | none => exact .throw _
  | some response =>
    dsimp only
    split
    · exact checks_pure _
    · exact .throw _

theorem checks_conditionOf : Checks s v (Execute.conditionOf s v) := by
  unfold Execute.conditionOf
  refine .bind (.lift (reads_input 1)) fun value => ?_
  cases value with
  | some value => exact checks_pure _
  | none =>
    dsimp only
    split
    · exact checks_pure _
    · exact checks_pure _
    · exact checks_pure _
    · exact .throw _

end ScriptGraph.Script
