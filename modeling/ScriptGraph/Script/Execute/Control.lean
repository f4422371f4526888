import ScriptGraph.Script.Pass
import ScriptGraph.Text.Case

/-! # Executing control flow

The kinds that decide what comes next: branches, loops and pauses. Where a decision fails, the
failure is reported and nothing is followed.
-/

namespace ScriptGraph.Script.Execute

open Setting
open Json (Value)

def onStart : Executor := fun _ _ _ => do
  trace "OnStart node triggered"
  return .proceed

/-- Takes the decision, or reports why there is none. -/
def deciding (node : Node) (decision : ExceptT Fault RunM Flow) : ExceptT Fault RunM Flow :=
  tryCatch decision fun fault => do
    diagnose node fault
    return .halt

/-- The output that a truth value selects. -/
def branchPort (outcome : Bool) : Nat :=
  if outcome then 0 else 1

def ifThen : Executor := fun s _ node => deciding node do
  let a ← s.requireInput node 1
  let b ← s.requireInput node 2
  let operator := ((s.props node).nonEmpty? "operator").getD "=="
  let outcome ← (compare operator a b : Except Fault Bool)
  trace s!"If: {display a} {operator} {display b} is {outcome}"
  return .follow (branchPort outcome)

/-- The condition of a branch or loop: the truth of what is wired, else the truth value that the
node spells out, else true. -/
def conditionOf (s : Setting) (node : Node) : ExceptT Fault RunM Bool := do
  match ← s.input node 1 with
  | some value => return isTruthy value
  | none =>
    match Text.trim ((s.props node).text "condition") with
    | "" | "true" => return true
    | "false" => return false
    | other => throw (.unsupported "condition expression" other)

def condition : Executor := fun s _ node => deciding node do
  let outcome ← conditionOf s node
  trace s!"Evaluating condition: {outcome}"
  return .follow (branchPort outcome)

/-- Whether a case of a switch holds for a value. A switch that ignores case compares texts in lower
case, and then only cases of text can hold. -/
def caseMatches (ignoreCase : Bool) (value : Value) (c : SwitchCase) : Bool :=
  if ignoreCase then
    c.type = "string" && Text.toLower (display value) = Text.toLower c.value
  else match c.type, value with
    | "number", .number n => (Decimal.read? (Text.trim c.value)).any (n.toFloat == ·)
    | "number", _ => false
    | "boolean", value => value == .bool (c.value = "true")
    | _, .string s => s = c.value
    | _, _ => false

/-- The output of the first case that holds; the default output comes before those of the cases. -/
def casePort (ignoreCase : Bool) (value : Value) (cases : List SwitchCase) : Nat :=
  match cases.findIdx? (caseMatches ignoreCase value) with
  | some index => index + 1
  | none => 0

def switch : Executor := fun s _ node => deciding node do
  let value ← s.requireInput node 1
  let props := s.props node
  let port := casePort (props.flag "ignoreCase") value (SwitchCase.list (props.get? "cases"))
  trace s!"Switch on {display value} takes output {port}"
  return .follow port

/-- Runs the body of a loop while a test holds, with a state that changes from one time to the next,
and counts how often. `remaining` bounds how often it may still run; to want more is reported. -/
def repeatBody {α : Type} (s : Setting) (visit : Node → RunM Unit) (node : Node)
    (test : α → RunM Bool) (next : α → α) : (remaining done : Nat) → α → RunM Nat
  | remaining, done, state => do
    if ← test state then
      match remaining with
      | 0 =>
        diagnose node (.loopLimit s.maxLoopIterations)
        return done
      | remaining + 1 =>
        s.iterate visit node 0
        repeatBody s visit node test next remaining (done + 1) (next state)
    else return done

/-- The condition of a loop. One that cannot be told is reported and ends the loop. -/
def holds (s : Setting) (node : Node) : RunM Bool := do
  match ← (conditionOf s node).run with
  | .ok outcome => return outcome
  | .error fault =>
    diagnose node fault
    return false

def whileLoop : Executor := fun s visit node => do
  let count ← repeatBody s visit node (fun _ => holds s node) id s.maxLoopIterations 0 ()
  trace s!"WhileLoop ran {count} iterations"
  return .follow 1

def forLoop : Executor := fun s visit node => do
  let props := s.props node
  let start := (props.number? "start").getD 0
  let stop := (props.number? "end").getD 10
  let step := (props.number? "step").getD 1
  if step == 0 || !step.isFinite then throw (.unsupported "loop step" (Decimal.plain step))
  let test (index : Float) : RunM Bool := return if step > 0 then index < stop else stop < index
  let count ← repeatBody s visit node test (· + step) s.maxLoopIterations 0 start
  trace s!"ForLoop ran {count} iterations"
  return .follow 1

/-- Pauses are shorter than `2 ^ 64` seconds. -/
def pauseLimit : Float := 18446744073709551616

def waitForSeconds : Executor := fun s _ node => do
  let seconds := ((s.props node).number? "delay").getD 1
  if !seconds.isFinite then throw (.nonFinite "delay")
  if pauseLimit ≤ seconds then throw (.unsupported "delay" (Decimal.plain seconds))
  trace s!"Waiting for {Decimal.plain seconds} seconds"
  log (.pause (if 0 < seconds then seconds else 0))
  return .proceed

end ScriptGraph.Script.Execute
