import ScriptGraph.Source.Pass
import ScriptGraph.Text.Case

/-! # Emitting control flow

Statements of the kinds that decide what comes next: branches, loops and pauses.
-/

namespace ScriptGraph.Source.Emit

open Setting

/-- Writes what a block holds, one level deeper. -/
def block (body : EmitM Unit) : EmitM Unit := do
  indent
  body
  dedent

/-- Writes a branch of two ways: the first output where the condition holds, else the second. -/
def twoWay (s : Setting) (visit : Node → EmitM Unit) (node : Node) (condition : String) :
    EmitM Flow := do
  line s!"if ({condition}) \x7b"
  block (s.branch visit node 0)
  line "\x7d else \x7b"
  block (s.branch visit node 1)
  line "\x7d"
  return .halt

def ifThen : Emitter := fun s visit node => do
  let a ← s.input node 1
  let b ← s.input node 2
  match a, b with
  | some a, some b =>
    let operator := ((s.props node).nonEmpty? "operator").getD "=="
    twoWay s visit node s!"{a} {operator} {b}"
  | _, _ =>
    warn "If node is missing input values"
    return .halt

/-- The condition of a branch or loop: what is wired, else what the node says, else always. -/
def conditionOf (s : Setting) (node : Node) : EmitM String := do
  let wired ← s.input node 1
  return (wired.or ((s.props node).nonEmpty? "condition")).getD "true"

def condition : Emitter := fun s visit node => do
  twoWay s visit node (← conditionOf s node)

/-- The label of a case. A switch that ignores case compares texts in lower case. -/
def caseLabel (ignoreCase : Bool) (c : SwitchCase) : String :=
  if c.type = "number" then caseNumber c.value
  else if c.type = "boolean" then (if c.value = "true" then "true" else "false")
  else Json.quote (if ignoreCase then Text.toLower c.value else c.value)

/-- Writes what one label of a switch leads to. -/
def caseBlock (s : Setting) (visit : Node → EmitM Unit) (node : Node) (label : String)
    (port : Nat) : EmitM Unit := do
  line label
  block do
    s.branch visit node port
    line "break"

/-- The cases from an index on; the case at an index drives the output after it. -/
def caseBlocks (s : Setting) (visit : Node → EmitM Unit) (node : Node) (ignoreCase : Bool) :
    (index : Nat) → List SwitchCase → EmitM Unit
  | _, [] => pure ()
  | index, c :: rest => do
    caseBlock s visit node s!"case {caseLabel ignoreCase c}:" (index + 1)
    caseBlocks s visit node ignoreCase (index + 1) rest

def switch : Emitter := fun s visit node => do
  match ← s.input node 1 with
  | none =>
    warn "Switch node is missing input value"
    return .halt
  | some value =>
    let props := s.props node
    let ignoreCase := props.flag "ignoreCase"
    let subject := if ignoreCase then s!"{value}.toString().toLowerCase()" else value
    line s!"switch ({subject}) \x7b"
    block do
      caseBlocks s visit node ignoreCase 0 (SwitchCase.list (props.get? "cases"))
      caseBlock s visit node "default:" 0
    line "\x7d"
    return .halt

/-- Writes a loop around the first output and goes on at the second. -/
def loop (s : Setting) (visit : Node → EmitM Unit) (node : Node) (header : String) :
    EmitM Flow := do
  line header
  block (s.branch visit node 0)
  line "\x7d"
  return .follow 1

def whileLoop : Emitter := fun s visit node => do
  loop s visit node s!"while ({← conditionOf s node}) \x7b"

def forLoop : Emitter := fun s visit node => do
  let props := s.props node
  let start := (props.number? "start").getD 0
  let stop := (props.number? "end").getD 10
  let step := (props.number? "step").getD 1
  if step == 0 then
    warn "ForLoop node has a step of 0"
    return .follow 1
  else
    let index ← freshName "i"
    let comparison := if step > 0 then "<" else ">"
    loop s visit node <|
      s!"for (let {index} = {formatNumber start}; {index} {comparison} {formatNumber stop}; " ++
        s!"{index} += {formatNumber step}) \x7b"

/-- The number, or zero if it is less or no number. -/
def notNegative (x : Float) : Float :=
  if x > 0 then x else 0

def waitForSeconds : Emitter := fun s _ node => do
  let seconds := notNegative (((s.props node).number? "delay").getD 1)
  line s!"await new Promise(resolve => setTimeout(resolve, {formatNumber (seconds * 1000)}))"
  return .proceed

end ScriptGraph.Source.Emit
