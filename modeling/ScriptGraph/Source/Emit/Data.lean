import ScriptGraph.Source.Emit.Control

/-! # Emitting data

Statements of the kinds that store, compute and change values.
-/

namespace ScriptGraph.Source.Emit

open Setting

def var : Emitter := fun s _ node => do
  match (s.props node).nonEmpty? "name" with
  | none => warn "Variable node has no name"
  | some name =>
    let assigned ← s.input node 1
    if !(← isDeclared name) then s.declareVariable node assigned
    else match assigned with
      | some value => if value ≠ name then write (.assign name value)
      | none => pure ()
  return .proceed

def mathOperation : Emitter := fun s _ node => do
  let a ← s.input node 1
  let b ← s.input node 2
  match a, b with
  | some a, some b =>
    let operation := ((s.props node).nonEmpty? "operation").getD "+"
    s.recordPrimary node s!"({a} {operation} {b})"
  | _, _ => warn "MathOperation node is missing input values"
  return .proceed

/-- Binds a temporary to a value and records it as the result of the node. -/
def bindResult (s : Setting) (node : Node) (base value : String) : EmitM Unit := do
  let result ← freshName base
  write (.declare s.resultKeyword result (some value))
  s.recordPrimary node result

def random : Emitter := fun s _ node => do
  let props := s.props node
  let type := props.text "type"
  if type = "number" then
    let low := formatNumber ((props.number? "min").getD 1)
    let high := formatNumber ((props.number? "max").getD 100)
    bindResult s node "randomResult" s!"Math.floor(Math.random() * ({high} - {low} + 1)) + {low}"
  else if type = "string" then
    let length := Decimal.floor (notNegative ((props.number? "length").getD 10))
    let charset := (props.nonEmpty? "charset").getD Kind.defaultCharset
    let index ← freshName "i"
    let result ← freshName "randomResult"
    write (.declare .letBinding result (some "''"))
    line s!"for (let {index} = 0; {index} < {formatNumber length}; {index}++) \x7b"
    block do
      write (.append result
        s!"{Json.quote charset}[Math.floor(Math.random() * {charset.length})]")
    line "\x7d"
    s.recordPrimary node result
  else if type = "boolean" then
    let probability := formatNumber ((props.number? "probability").getD 50)
    bindResult s node "randomResult" s!"Math.random() * 100 < {probability}"
  else warn s!"Unknown random type: {type}"
  return .proceed

def arrayOperation : Emitter := fun s _ node => do
  match ← s.input node 1 with
  | none => warn "ArrayOperation node is missing an array input"
  | some array =>
    let props := s.props node
    let operation := props.text "operation"
    let argument := props.text "argument"
    if operation = "push" ∨ operation = "unshift" then
      let value ← literalOrReference argument
      line s!"{array}.{operation}({value})"
      s.recordPrimary node array
    else if operation = "pop" ∨ operation = "shift" then
      bindResult s node "arrayResult" s!"{array}.{operation}()"
    else if ["slice", "map", "filter", "reduce"].contains operation then
      bindResult s node "arrayResult" s!"{array}.{operation}({argument})"
    else warn s!"Unknown array operation: {operation}"
  return .proceed

def objectOperation : Emitter := fun s _ node => do
  match ← s.input node 1 with
  | none => warn "ObjectOperation node is missing an object input"
  | some object =>
    let props := s.props node
    let operation := props.text "operation"
    let key := Json.quote (props.text "key")
    if operation = "get" then bindResult s node "objectResult" s!"{object}[{key}]"
    else if operation = "set" then
      let value ← literalOrReference (props.text "value")
      line s!"{object}[{key}] = {value}"
      s.recordPrimary node object
    else if operation = "delete" then
      line s!"delete {object}[{key}]"
      s.recordPrimary node object
    else if operation = "has" then bindResult s node "objectResult" s!"{key} in {object}"
    else warn s!"Unknown object operation: {operation}"
  return .proceed

def function : Emitter := fun s _ node => do
  let props := s.props node
  match props.nonEmpty? "name" with
  | none => warn "Function node has no name"
  | some name =>
    let parameters := FunctionParameter.list (props.get? "parameters")
    let arguments ← (List.range parameters.length).mapM fun index => do
      return (← s.input node (index + 1)).getD "undefined"
    let listed := ", ".intercalate arguments
    let call := s!"{name}({listed})"
    if (props.nonEmpty? "returnType").getD "void" = "void" then line call
    else bindResult s node s!"{name}Result" call
  return .proceed

end ScriptGraph.Source.Emit
