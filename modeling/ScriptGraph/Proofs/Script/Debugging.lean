import ScriptGraph.Proofs.Script.Simulation
import ScriptGraph.Proofs.Script.Traversal

/-! # Runs in debug mode

In debug mode a run tells on the console when it begins and ends, how executions go and which of
them fail. These lines are all that is different: a state outside of debug mode has the same log,
and its console shows less of it.
-/

namespace ScriptGraph.Script

open Json (Value)

/-- The state as it is in debug mode or outside of it, with the lines that show its log there. -/
def Machine.inMode (debug : Bool) (m : Machine) : Machine :=
  { m with debug, console := (m.log.toList.filterMap (·.line? debug)).toArray }

variable {debug : Bool} {m : Machine}

theorem Machine.logged_inMode (es : List Event) :
    (m.inMode debug).logged es = (m.logged es).inMode debug := by
  simp [inMode, logged]

theorem Machine.bound_inMode (name : String) (value : Value) :
    (m.inMode debug).bound name value = (m.bound name value).inMode debug := by
  unfold bound
  rw [logged_inMode]
  rfl

theorem Machine.recorded_inMode (output : PortRef) (value : Value) :
    (m.inMode debug).recorded output value = (m.recorded output value).inMode debug := by
  unfold recorded
  rw [logged_inMode]
  rfl

/-- The second state is the first one in debug mode or outside of it. -/
def Modes (debug : Bool) (m m' : Machine) : Prop :=
  m' = m.inMode debug

/-! ### Programs in either mode -/

theorem simulates_mode_log (e : Event) : Simulates (Modes debug) (log e) (log e) := by
  rintro m _ rfl
  rw [log_run, log_run, Machine.logged_inMode]
  exact ⟨rfl, rfl⟩

/-- A program that looks at no line and writes none. -/
theorem simulates_mode_of_run {α : Type} {x : RunM α}
    (h : ∀ m : Machine, x.run (m.inMode debug) = ((x.run m).1, (x.run m).2.inMode debug)) :
    Simulates (Modes debug) x x := by
  rintro m _ rfl
  rw [h m]
  exact ⟨rfl, rfl⟩

theorem simulates_mode_setVariable (name : String) (value : Value) :
    Simulates (Modes debug) (setVariable name value) (setVariable name value) := by
  rintro m _ rfl
  rw [setVariable_run, setVariable_run, Machine.bound_inMode]
  exact ⟨rfl, rfl⟩

theorem simulates_mode_record (v : Node) (port : Nat) (value : Value) :
    Simulates (Modes debug) (record v port value) (record v port value) := by
  rintro m _ rfl
  rw [record_run, record_run, Machine.recorded_inMode]
  exact ⟨rfl, rfl⟩

section

variable (s : Setting) (v : Node)

/-- The first read of a variable gives it the same value in either mode. -/
theorem withProducer_inMode (index : Nat) :
    s.withProducer v index (m.inMode debug) = (s.withProducer v index m).inMode debug := by
  have unbound : s.unbound? (m.inMode debug) v index = s.unbound? m v index := rfl
  unfold Setting.withProducer
  rw [unbound]
  cases s.unbound? m v index with
  | none => rfl
  | some producer => exact Machine.bound_inMode _ _

theorem simulates_mode_send (request : Http.Request) :
    Simulates (Modes debug) (s.send request) (s.send request) := by
  rintro m _ rfl
  rw [send_run, send_run]
  exact ⟨rfl, Machine.logged_inMode (m := { m with sent := m.sent + 1 }) _⟩

/-- Whatever executors are made of, they do it in either mode. -/
theorem similar_mode : s.Similar (Modes debug) s v v where
  props := .refl _
  inputName _ := rfl
  limit := rfl
  log _ := simulates_mode_log _
  diagnose _ := simulates_mode_log _
  record := simulates_mode_record v
  recordPrimary value := by
    unfold Setting.recordPrimary
    cases (s.registry.portsOf? v).bind (·.primaryOutput?) with
    | none => exact .pure ()
    | some port => exact simulates_mode_record v port value
  variableValue? _ := simulates_mode_of_run fun _ => rfl
  setVariable := simulates_mode_setVariable
  input {index} _ := by
    rintro m _ rfl
    rw [Setting.input_run, Setting.input_run, withProducer_inMode]
    exact ⟨rfl, rfl⟩
  writeBack {index} _ value := by
    unfold Setting.writeBack
    cases s.producerVariable? v index with
    | none => exact .pure ()
    | some producer => exact simulates_mode_setVariable _ value
  draw := simulates_mode_of_run fun _ => rfl
  send := simulates_mode_send s

variable {s v} {visit visit' : Node → RunM Unit}
  (hv : ∀ u, Simulates (Modes debug) (visit u) (visit' u))
include hv

theorem simulates_mode_iterate (port : Nat) :
    Simulates (Modes debug) (s.iterate visit v port) (s.iterate visit' v port) := by
  rintro m _ rfl
  have branch : Simulates (Modes debug) (s.branch visit v port) (s.branch visit' v port) :=
    .forM hv
  obtain ⟨-, ended⟩ := branch _ _ (Machine.logged_inMode [.iteration ⟨v.id, port⟩])
  rw [iterate_run, iterate_run, ended]
  exact ⟨rfl, rfl⟩

end

namespace Interpreter

variable {limit : Nat} {exchange : Http.Exchange} {draws : Draws} {s : Setting}

theorem simulates_mode_execute {visit visit' : Node → RunM Unit}
    (hv : ∀ u, Simulates (Modes debug) (visit u) (visit' u)) (v : Node) :
    Simulates (Modes debug) ((builtin limit exchange draws).execute s visit v)
      ((builtin limit exchange draws).execute s visit' v) := by
  have executed : Attempts (Modes debug)
      ((builtin limit exchange draws).executorOf v.kind s visit v)
      ((builtin limit exchange draws).executorOf v.kind s visit' v) := by
    rw [executorOf_builtin]
    cases Kind.ofName? v.kind with
    | some kind => exact attempts_builtin (similar_mode s v) (simulates_mode_iterate hv) kind
    | none => exact .throw _
  exact simulates_execute (simulates_mode_log _) (simulates_mode_log _)
    (simulates_attempt executed fun _ => simulates_mode_log _)

/-- Debug mode decides on nothing but the lines on the console. -/
theorem machine_withDebug (limit : Nat) (exchange : Http.Exchange) (draws : Draws) (graph : Graph)
    (debug : Bool) :
    ((builtin limit exchange draws).withDebug debug).machine graph =
      ((builtin limit exchange draws).machine graph).inMode debug := by
  let i := builtin limit exchange draws
  have visited (v : Node) : Simulates (Modes debug) (i.visit graph v) (i.visit graph v) := by
    exact .walk (fun _ _ => rfl) (fun id => simulates_mode_of_run fun _ => rfl)
      (fun _ _ hv => simulates_mode_execute hv) _ v
  have pass : Simulates (Modes debug) ((i.setting graph).entryNodes.forM (i.visit graph))
      ((i.setting graph).entryNodes.forM (i.visit graph)) :=
    .forM visited
  -- Only the states that they begin in tell the two runs apart.
  exact (pass {} { debug } rfl).2

end Interpreter

/-! ### The console -/

/-- The entries of two lists, each in its order, in between each other. -/
inductive Interleaves {α : Type} : List α → List α → List α → Prop where
  | nil : Interleaves [] [] []
  | left {x : α} {xs ys zs : List α} : Interleaves xs ys zs → Interleaves (x :: xs) ys (x :: zs)
  | right {y : α} {xs ys zs : List α} : Interleaves xs ys zs → Interleaves xs (y :: ys) (y :: zs)

namespace Interleaves

variable {α : Type} {xs ys zs : List α}

theorem sublist (h : Interleaves xs ys zs) : xs.Sublist zs := by
  induction h with
  | nil => exact .slnil
  | left _ ih => exact ih.cons_cons _
  | right _ ih => exact ih.cons _

theorem concat_right (h : Interleaves xs ys zs) (y : α) :
    Interleaves xs (ys ++ [y]) (zs ++ [y]) := by
  induction h with
  | nil => exact .right .nil
  | left _ ih => exact .left ih
  | right _ ih => exact .right ih

end Interleaves

/-- The line that an event puts on the console in debug mode only: a trace or a failure. -/
def Event.debugLine? (e : Event) : Option Line :=
  match e with
  | .trace _ | .failure _ => e.line? true
  | _ => none

/-- The lines that debug mode adds to the console. -/
def Run.debugLines (r : Run) : List Line :=
  startBanner :: r.log.filterMap Event.debugLine? ++ [endBanner]

theorem interleaves_lines (es : List Event) :
    Interleaves (es.filterMap (·.line? false)) (es.filterMap Event.debugLine?)
      (es.filterMap (·.line? true)) := by
  induction es with
  | nil => exact .nil
  | cons e es ih =>
    cases e with
    | print line => exact .left ih
    | trace text => exact .right ih
    | failure d => exact .right ih
    | _ => exact ih

namespace Interpreter

variable {limit : Nat} {exchange : Http.Exchange} {draws : Draws} {graph : Graph}

/-- What a run writes on the console is what the console shows for its log. -/
theorem console_withDebug (debug : Bool) :
    ((builtin limit exchange draws).withDebug debug).console graph =
      ((builtin limit exchange draws).run graph).console debug := by
  unfold console
  rw [machine_withDebug]
  rfl

theorem run_withDebug (debug : Bool) :
    ((builtin limit exchange draws).withDebug debug).run graph =
      (builtin limit exchange draws).run graph := by
  unfold run
  rw [machine_withDebug]
  rfl

end Interpreter

/-- Debug mode adds lines to the console and leaves the report of a run alone. -/
structure OnlyAddsLines (quiet loud : Interpreter) (graph : Graph) : Prop where
  visited : (loud.run graph).visited = (quiet.run graph).visited
  diagnostics : (loud.run graph).diagnostics = (quiet.run graph).diagnostics
  console : (quiet.console graph).Sublist (loud.console graph)
  /-- The lines that are added are those of debug mode. -/
  added : Interleaves (quiet.console graph) (loud.run graph).debugLines (loud.console graph)

/-- With debug mode a run visits the same nodes and reports the same failures as without, and its
console shows the same lines with those of debug mode in between. -/
theorem debug_onlyAddsLines (limit : Nat) (exchange : Http.Exchange) (draws : Draws)
    (graph : Graph) :
    OnlyAddsLines ((builtin limit exchange draws).withDebug false)
      ((builtin limit exchange draws).withDebug true) graph := by
  let r := (builtin limit exchange draws).run graph
  have added : Interleaves (r.console false) r.debugLines (r.console true) :=
    .right ((interleaves_lines r.log).concat_right Run.endBanner)
  constructor
  · rw [Interpreter.run_withDebug, Interpreter.run_withDebug]
  · rw [Interpreter.run_withDebug, Interpreter.run_withDebug]
  · rw [Interpreter.console_withDebug, Interpreter.console_withDebug]
    exact added.sublist
  · rw [Interpreter.console_withDebug, Interpreter.console_withDebug, Interpreter.run_withDebug]
    exact added

end ScriptGraph.Script
