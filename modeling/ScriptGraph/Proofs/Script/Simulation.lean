import ScriptGraph.Proofs.Kind.Properties
import ScriptGraph.Proofs.Script.Outcome
import ScriptGraph.Proofs.Walk.Simulation

/-! # Executors side by side

Two runs stay related over everything that the built-in executors do if they do over the few things
that executors are made of. The nodes that they execute may differ, as long as they have the same
properties.
-/

namespace ScriptGraph

namespace Script

open Execute
open Json (Value Members)

/-- Two runs are given the same at two nodes, as far as a relation can tell. -/
structure Setting.Alike (R : Machine → Machine → Prop) (s s' : Setting) (v v' : Node) : Prop where
  props : (s.props v).Agree (s'.props v')
  inputName (index : Nat) : s.inputName v index = s'.inputName v' index
  /-- The first input is the one that control comes by. -/
  input {index : Nat} (hi : index ≠ 0) : Simulates R (s.input v index) (s'.input v' index)

/-- Two runs tell the same of two nodes, as far as a relation can tell. -/
structure Setting.Tells (R : Machine → Machine → Prop) (s s' : Setting) (v v' : Node) : Prop where
  limit : s.maxLoopIterations = s'.maxLoopIterations
  log {e : Event} (he : e.isQuiet) : Simulates R (log e) (log e)
  diagnose (fault : Fault) : Simulates R (diagnose v fault) (diagnose v' fault)

/-- Two runs do alike at two nodes whatever executors are made of, as far as a relation can tell. -/
structure Setting.Similar (R : Machine → Machine → Prop) (s s' : Setting) (v v' : Node) : Prop
    extends Setting.Alike R s s' v v', Setting.Tells R s s' v v' where
  record (port : Nat) (value : Value) : Simulates R (record v port value) (record v' port value)
  recordPrimary (value : Value) :
    Simulates R (s.recordPrimary v value) (s'.recordPrimary v' value)
  variableValue? (name : String) : Simulates R (variableValue? name) (variableValue? name)
  setVariable (name : String) (value : Value) :
    Simulates R (setVariable name value) (setVariable name value)
  writeBack {index : Nat} (hi : index ≠ 0) (value : Value) :
    Simulates R (s.writeBack v index value) (s'.writeBack v' index value)
  draw : Simulates R s.draw s'.draw
  send (request : Http.Request) : Simulates R (s.send request) (s'.send request)

variable {R : Machine → Machine → Prop} {s s' : Setting} {v v' : Node}

namespace Setting.Alike

variable (h : s.Alike R s' v v')
include h

theorem requireInput {index : Nat} (hi : index ≠ 0) :
    Attempts R (s.requireInput v index) (s'.requireInput v' index) := by
  unfold Setting.requireInput
  refine .bind (.lift (h.input hi)) fun value => ?_
  cases value with
  | some value => exact .pure value
  | none =>
    rw [h.inputName]
    exact .throw _

theorem initialValue_eq : s.initialValue v = s'.initialValue v' := by
  unfold Setting.initialValue
  dsimp only
  rw [h.props.text_eq, h.props.text_eq]

theorem conditionOf : Attempts R (conditionOf s v) (conditionOf s' v') := by
  unfold Execute.conditionOf
  refine .bind (.lift (h.input (by decide))) fun value => ?_
  cases value with
  | some value => exact .pure _
  | none =>
    dsimp only
    rw [h.props.text_eq]
    split
    · exact .pure true
    · exact .pure true
    · exact .pure false
    · exact .throw _

end Setting.Alike

namespace Setting.Tells

variable (h : s.Tells R s' v v')
include h

theorem trace (text : String) : Attempts R (trace text : ExceptT Fault RunM Unit) (trace text) :=
  .lift (h.log rfl)

theorem deciding {decision decision' : ExceptT Fault RunM Flow}
    (hd : Attempts R decision decision') :
    Attempts R (deciding v decision) (deciding v' decision') :=
  hd.caught fun fault => .bind (.lift (h.diagnose fault)) fun _ => .pure Flow.halt

end Setting.Tells

namespace Setting.Similar

variable (h : s.Similar R s' v v')
include h

theorem apply (u : Update) : Simulates R (u.apply s v) (u.apply s' v') := by
  unfold Update.apply
  cases u.stored with
  | some value => exact (h.writeBack (by decide) value).bind fun _ => h.recordPrimary _
  | none => exact (Simulates.pure ()).bind fun _ => h.recordPrimary _

theorem argumentValue (text : String) :
    Simulates R (argumentValue text) (argumentValue text) := by
  unfold Execute.argumentValue
  refine (h.variableValue? _).bind fun value => ?_
  cases value with
  | some value => exact .pure value
  | none =>
    dsimp only
    split
    · exact .pure _
    · exact .pure _

theorem drawText (charset : Array Char) (length : Nat) (drawn : List Char) :
    Simulates R (drawText s charset length drawn) (drawText s' charset length drawn) := by
  induction length generalizing drawn with
  | zero => exact .pure _
  | succ length ih => exact h.draw.bind fun word => ih _

theorem sendRequest (request : Http.Request) :
    Attempts R (sendRequest s request) (sendRequest s' request) := by
  unfold Execute.sendRequest
  refine .bind (.lift (h.send request)) fun response => ?_
  cases response with
  | none => exact .throw _
  | some response =>
    dsimp only
    split
    · exact .pure _
    · exact .throw _

end Setting.Similar

/-! ### Executors that do not branch -/

section

variable (visit visit' : Node → RunM Unit) (h : s.Similar R s' v v')
include h

theorem attempts_waitForSeconds :
    Attempts R (waitForSeconds s visit v) (waitForSeconds s' visit' v') := by
  unfold waitForSeconds
  dsimp only
  rw [h.props.number?_eq]
  refine .check (.check (.bind (h.trace _) fun _ => ?_))
  exact .bind (.lift (h.log rfl)) fun _ => .pure _

theorem attempts_var : Attempts R (var s visit v) (var s' visit' v') := by
  unfold var
  rw [h.props.nonEmpty?_eq, h.initialValue_eq]
  cases (s'.props v').nonEmpty? "name" with
  | none => exact .throw _
  | some name =>
    -- Every way through the node ends by showing the variable.
    have shows {f : Option Value → ExceptT Fault RunM Flow} (hn : f none = pure .proceed)
        (hs : ∀ value, f (some value) = (do
          trace s!"Variable {name} = {display value}"
          return .proceed)) :
        Attempts R (liftM (variableValue? name) >>= f) (liftM (variableValue? name) >>= f) := by
      refine .bind (.lift (h.variableValue? name)) fun value => ?_
      cases value with
      | none =>
        rw [hn]
        exact .pure _
      | some value =>
        rw [hs]
        exact .bind (h.trace _) fun _ => .pure _
    refine .bind (.lift (h.input (by decide))) fun assigned => ?_
    cases assigned with
    | some assigned =>
      exact .bind (.lift (h.setVariable name assigned)) fun _ => shows rfl fun _ => rfl
    | none =>
      refine .bind (.lift (h.variableValue? name)) fun value => ?_
      refine .ite ?_ (shows rfl fun _ => rfl)
      exact .bind (.lift (h.setVariable name _)) fun _ => shows rfl fun _ => rfl

theorem attempts_mathOperation :
    Attempts R (mathOperation s visit v) (mathOperation s' visit' v') := by
  unfold mathOperation
  rw [h.props.nonEmpty?_eq]
  refine .bind (h.requireInput (by decide)) fun a => .bind (h.requireInput (by decide)) fun b => ?_
  refine .bind (.liftExcept _) fun result => .bind (h.trace _) fun _ => ?_
  exact .bind (.lift (h.recordPrimary result)) fun _ => .pure _

theorem attempts_randomValue : Attempts R (randomValue s v) (randomValue s' v') := by
  unfold randomValue
  dsimp only
  simp only [h.props.text_eq, h.props.number?_eq]
  split
  · exact .bind (.lift h.draw) fun word => .liftExcept _
  · exact .check (.bind (.lift (h.drawText _ _ _)) fun text => .pure _)
  · exact .bind (.lift h.draw) fun word => .pure _
  · exact .throw _

theorem attempts_random : Attempts R (random s visit v) (random s' visit' v') := by
  unfold random
  refine .bind (attempts_randomValue h) fun result => .bind (h.trace _) fun _ => ?_
  exact .bind (.lift (h.recordPrimary result)) fun _ => .pure _

theorem attempts_updateArray (operation argument : String) (items : List Value) :
    Attempts R (updateArray operation argument items) (updateArray operation argument items) := by
  unfold updateArray
  split
  · exact .bind (.lift (h.argumentValue _)) fun _ => .pure _
  · exact .bind (.lift (h.argumentValue _)) fun _ => .pure _
  · exact .pure _
  · exact .pure _
  · exact .bind (.liftExcept _) fun _ => .pure _
  · exact .throw _

theorem attempts_arrayOperation :
    Attempts R (arrayOperation s visit v) (arrayOperation s' visit' v') := by
  unfold arrayOperation
  refine .bind (h.requireInput (by decide)) fun value => ?_
  split
  · dsimp only
    rw [h.props.text_eq, h.props.text_eq]
    refine .bind (attempts_updateArray h _ _ _) fun update => ?_
    exact .bind (.lift (h.apply update)) fun _ => .pure _
  · exact .throw _

theorem attempts_updateObject (operation key value : String) (members : Members) :
    Attempts R (updateObject operation key value members)
      (updateObject operation key value members) := by
  unfold updateObject
  split
  · exact .pure _
  · exact .bind (.lift (h.argumentValue _)) fun _ => .pure _
  · exact .pure _
  · exact .pure _
  · exact .throw _

theorem attempts_objectOperation :
    Attempts R (objectOperation s visit v) (objectOperation s' visit' v') := by
  unfold objectOperation
  refine .bind (h.requireInput (by decide)) fun value => ?_
  split
  · dsimp only
    rw [h.props.text_eq, h.props.text_eq, h.props.text_eq]
    refine .bind (attempts_updateObject h _ _ _ _) fun update => ?_
    exact .bind (.lift (h.apply update)) fun _ => .pure _
  · exact .throw _

theorem attempts_function :
    Attempts R (Execute.function s visit v) (Execute.function s' visit' v') := by
  unfold Execute.function
  rw [h.props.text_eq]
  exact .throw _

theorem attempts_log : Attempts R (Execute.log s visit v) (Execute.log s' visit' v') := by
  unfold Execute.log
  dsimp only
  rw [h.props.nonEmpty?_eq, h.props.text_eq]
  refine .bind (.lift (h.input (by decide))) fun value => ?_
  exact .bind (.lift (h.log rfl)) fun _ => .pure _

theorem attempts_httpRequest :
    Attempts R (httpRequest s visit v) (httpRequest s' visit' v') := by
  have request (method : String) :
      requestOf (s.props v) method = requestOf (s'.props v') method := by
    unfold requestOf
    dsimp only
    rw [h.props.members_eq, h.props.text_eq, h.props.text_eq]
  unfold httpRequest
  dsimp only
  simp only [h.props.nonEmpty?_eq, h.props.text_eq, request]
  refine .check (.bind (h.trace _) fun _ => .bind (.liftExcept _) fun request => ?_)
  refine .bind (h.sendRequest request) fun response => .bind (h.trace _) fun _ => ?_
  refine .bind (h.trace _) fun _ => .bind (h.trace _) fun _ => ?_
  refine .bind (.lift (h.record _ _)) fun _ => .bind (.lift (h.record _ _)) fun _ => ?_
  exact .bind (.lift (h.record _ _)) fun _ => .pure _

theorem attempts_convert (c : Conversion)
    (hc : ∀ value, c.apply value (s.props v) = c.apply value (s'.props v')) :
    Attempts R (convert c s visit v) (convert c s' visit' v') := by
  unfold convert
  refine .bind (h.requireInput (by decide)) fun input => ?_
  rw [hc]
  refine .bind (.liftExcept _) fun result => .bind (h.trace _) fun _ => ?_
  exact .bind (.lift (h.recordPrimary result)) fun _ => .pure _

/-! ### Executors that branch -/

theorem attempts_ifThen : Attempts R (ifThen s visit v) (ifThen s' visit' v') := by
  unfold ifThen
  rw [h.props.nonEmpty?_eq]
  refine h.deciding ?_
  refine .bind (h.requireInput (by decide)) fun a => .bind (h.requireInput (by decide)) fun b => ?_
  exact .bind (.liftExcept _) fun _ => .bind (h.trace _) fun _ => .pure _

theorem attempts_condition : Attempts R (condition s visit v) (condition s' visit' v') :=
  h.deciding (.bind h.conditionOf fun _ => .bind (h.trace _) fun _ => .pure _)

theorem attempts_switch : Attempts R (switch s visit v) (switch s' visit' v') := by
  unfold switch
  dsimp only
  rw [h.props.flag_eq, h.props]
  refine h.deciding (.bind (h.requireInput (by decide)) fun value => ?_)
  exact .bind (h.trace _) fun _ => .pure _

theorem simulates_holds : Simulates R (holds s v) (holds s' v') := by
  unfold holds
  refine Simulates.bind h.conditionOf fun outcome => ?_
  cases outcome with
  | ok outcome => exact .pure outcome
  | error fault => exact (h.diagnose fault).bind fun _ => .pure false

end

/-! ### Loops -/

section

variable {visit visit' : Node → RunM Unit}
  (hi : ∀ port, Simulates R (s.iterate visit v port) (s'.iterate visit' v' port))
include hi

theorem simulates_repeatBody (h : s.Tells R s' v v') {α : Type} {test test' : α → RunM Bool}
    (next : α → α) (ht : ∀ state, Simulates R (test state) (test' state)) (remaining done : Nat)
    (state : α) :
    Simulates R (repeatBody s visit v test next remaining done state)
      (repeatBody s' visit' v' test' next remaining done state) := by
  induction remaining generalizing done state with
  | zero =>
    unfold repeatBody
    rw [h.limit]
    exact (ht state).bind fun _ => .ite ((h.diagnose _).bind fun _ => .pure _) (.pure _)
  | succ remaining ih =>
    unfold repeatBody
    exact (ht state).bind fun _ => .ite ((hi 0).bind fun _ => ih _ _) (.pure _)

theorem attempts_whileLoop (h : s.Similar R s' v v') :
    Attempts R (whileLoop s visit v) (whileLoop s' visit' v') := by
  unfold whileLoop
  rw [h.limit]
  refine .bind (.lift (simulates_repeatBody hi h.toTells id (fun _ => simulates_holds h) _ _ _)) ?_
  exact fun count => .bind (h.trace _) fun _ => .pure _

/-- How often a loop counts does not depend on the state. -/
theorem attempts_forLoop (hp : (s.props v).Agree (s'.props v')) (h : s.Tells R s' v v') :
    Attempts R (forLoop s visit v) (forLoop s' visit' v') := by
  unfold forLoop
  dsimp only
  simp only [hp.number?_eq, h.limit]
  refine .check ?_
  refine .bind (.lift (simulates_repeatBody hi h _ (fun _ => .pure _) _ _ _)) fun count => ?_
  exact .bind (h.trace _) fun _ => .pure _

end

/-- The built-in executors are made of things that two similar runs do alike. -/
theorem attempts_builtin (h : s.Similar R s' v v') {visit visit' : Node → RunM Unit}
    (hi : ∀ port, Simulates R (s.iterate visit v port) (s'.iterate visit' v' port)) (kind : Kind) :
    Attempts R (Execute.builtin kind s visit v) (Execute.builtin kind s' visit' v') := by
  cases kind with
  | onStart => exact .bind (h.trace _) fun _ => .pure _
  | constant => exact .pure _
  | ifThen => exact attempts_ifThen visit visit' h
  | condition => exact attempts_condition visit visit' h
  | switch => exact attempts_switch visit visit' h
  | whileLoop => exact attempts_whileLoop hi h
  | forLoop => exact attempts_forLoop hi h.props h.toTells
  | waitForSeconds => exact attempts_waitForSeconds visit visit' h
  | var => exact attempts_var visit visit' h
  | mathOperation => exact attempts_mathOperation visit visit' h
  | random => exact attempts_random visit visit' h
  | arrayOperation => exact attempts_arrayOperation visit visit' h
  | objectOperation => exact attempts_objectOperation visit visit' h
  | function => exact attempts_function visit visit' h
  | log => exact attempts_log visit visit' h
  | httpRequest =>
    simp only [Execute.builtin]
    exact attempts_httpRequest visit visit' h
  | jsonParse => exact attempts_convert visit visit' h jsonParse fun _ => rfl
  | jsonStringify =>
    refine attempts_convert visit visit' h jsonStringify fun value => ?_
    unfold jsonStringify stringify
    dsimp only
    rw [h.props.number?_eq]
  | base64Encode => exact attempts_convert visit visit' h base64Encode fun _ => rfl
  | base64Decode => exact attempts_convert visit visit' h base64Decode fun _ => rfl

theorem simulates_attempt {x y : ExceptT Fault RunM Flow} (hx : Attempts R x y)
    (hd : ∀ fault, Simulates R (diagnose v fault) (diagnose v' fault)) :
    Simulates R (attempt v x) (attempt v' y) := by
  unfold attempt
  refine Simulates.bind hx fun result => ?_
  cases result with
  | ok flow => exact .pure flow
  | error fault => exact (hd fault).bind fun _ => .pure _

namespace Interpreter

/-- What is told of a node whose execution begins. -/
def introduction (v : Node) : Event :=
  .trace s!"Executing node: {v.kind} (ID: {v.id.text})"

/-- Executions go side by side if they do from where they have been told of. -/
theorem simulates_execute {i i' : Interpreter} {visit visit' : Node → RunM Unit}
    (hn : Simulates R (log (.node v.id)) (log (.node v'.id)))
    (hi : Simulates R (log (introduction v)) (log (introduction v')))
    (hx : Simulates R (attempt v (i.executorOf v.kind s visit v))
      (attempt v' (i'.executorOf v'.kind s' visit' v'))) :
    Simulates R (i.execute s visit v) (i'.execute s' visit' v') :=
  hn.bind fun _ => hi.bind fun _ => hx

end Interpreter

end Script

end ScriptGraph
