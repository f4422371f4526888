import ScriptGraph.Script.Execute.Control

/-! # Executing data

The kinds that store, compute and change values.
-/

namespace ScriptGraph.Script.Execute

open Setting
open Json (Value Members)

/-- Stores what is assigned, or else the initial value where nothing is stored yet. -/
def var : Executor := fun s _ node => do
  match (s.props node).nonEmpty? "name" with
  | none => throw (.unsupported "variable name" "")
  | some name =>
    match ← s.input node 1 with
    | some assigned => setVariable name assigned
    | none => if (← variableValue? name).isNone then setVariable name (s.initialValue node)
    match ← variableValue? name with
    | some value => trace s!"Variable {name} = {display value}"
    | none => pure ()
    return .proceed

def constant : Executor := fun _ _ _ => return .proceed

def mathOperation : Executor := fun s _ node => do
  let a ← s.requireInput node 1
  let b ← s.requireInput node 2
  let operation := ((s.props node).nonEmpty? "operation").getD "+"
  let result ← (arithmetic operation a b : Except Fault Value)
  trace s!"MathOperation: {display a} {operation} {display b} = {display result}"
  s.recordPrimary node result
  return .proceed

/-- Lengths have 64 bits. -/
def lengthLimit : Nat := 0xFFFFFFFFFFFFFFFF

/-- So many characters, each drawn from those given. That a word is taken by the remainder stands for
the draw from a range, whatever way the generator of random numbers goes about it. -/
def drawText (s : Setting) (charset : Array Char) : Nat → (drawn : List Char) → RunM String
  | 0, drawn => return String.ofList drawn.reverse
  | length + 1, drawn => do
    let word ← s.draw
    drawText s charset length (charset[word.toNat % charset.size]?.toList ++ drawn)

/-- A random value of the type that the node asks for. -/
def randomValue (s : Setting) (node : Node) : ExceptT Fault RunM Value := do
  let props := s.props node
  match props.text "type" with
  | "number" =>
    let low := (props.number? "min").getD 1
    let high := (props.number? "max").getD 100
    let drawn := unitOfWord (← s.draw)
    (numberValue (Decimal.floor (drawn * (high - low + 1)) + low) "random" : Except Fault Value)
  | "string" =>
    let length := Decimal.clampToNat lengthLimit ((props.number? "length").getD 10)
    let charset := (props.text "charset").toList.toArray
    if charset.isEmpty then throw (.unsupported "random charset" "")
    return .string (← drawText s charset length [])
  | "boolean" =>
    let probability := (props.number? "probability").getD 50
    return .bool (unitOfWord (← s.draw) * 100 < probability)
  | other => throw (.unsupported "random type" other)

def random : Executor := fun s _ node => do
  let result ← randomValue s node
  trace s!"Random result: {display result}"
  s.recordPrimary node result
  return .proceed

/-- What an argument stands for: the value of a variable with that name, else what the text spells
out as JSON, else the text. -/
def argumentValue (text : String) : RunM Value := do
  let trimmed := Text.trim text
  match ← variableValue? trimmed with
  | some value => return value
  | none =>
    match Json.parse trimmed with
    | .ok value => return value
    | .error _ => return .string text

/-- The place in a list that a bound means. Below zero it counts from the end. -/
def slicePosition (length : Nat) (bound : Float) : Nat :=
  if bound < 0 then length - Decimal.clampToNat lengthLimit (-bound)
  else min (Decimal.clampToNat lengthLimit bound) length

/-- The texts of the bounds that an argument lists. Only the first two count. -/
def boundTexts (argument : String) : List String :=
  let parts := (argument.toList.splitOn ',').map fun part => Text.trim (String.ofList part)
  (parts.filter (· ≠ "")).take 2

def sliceBounds (argument : String) : Except Fault (List Float) :=
  (boundTexts argument).mapM fun part =>
    match Decimal.read? part with
    | some bound => .ok bound
    | none => .error (.unsupported "slice bound" part)

/-- The places that two bounds mean; a missing one is an end of the list. -/
def sliceEnds (length : Nat) (bounds : List Float) : Nat × Nat :=
  ((bounds[0]?.map (slicePosition length)).getD 0,
    (bounds[1]?.map (slicePosition length)).getD length)

/-- The items from one place up to another, if these are places of the list in this order. -/
def between? (items : List Value) (start stop : Nat) : Option (List Value) :=
  if start ≤ stop ∧ stop ≤ items.length then some ((items.take stop).drop start) else none

/-- The items between two bounds. There are none where the bounds are no places of the list. -/
def slice (items : List Value) (bounds : List Float) : List Value :=
  let (start, stop) := sliceEnds items.length bounds
  (between? items start (max stop start)).getD []

/-- What an operation on a list or an object leads to. -/
structure Update where
  result : Value
  /-- The new state of the list or object, for the variable that holds it. -/
  stored : Option Value := none

/-- An update whose result is what it stores. -/
def Update.to (value : Value) : Update :=
  ⟨value, some value⟩

/-- Stores what an update stores and records its result. -/
def Update.apply (s : Setting) (node : Node) (u : Update) : RunM Unit := do
  match u.stored with
  | some value => s.writeBack node 1 value
  | none => pure ()
  s.recordPrimary node u.result

def updateArray (operation argument : String) (items : List Value) :
    ExceptT Fault RunM Update := do
  match operation with
  | "push" => return .to (.array (items ++ [← argumentValue argument]))
  | "unshift" => return .to (.array ((← argumentValue argument) :: items))
  | "pop" => return ⟨items.getLast?.getD .null, some (.array items.dropLast)⟩
  | "shift" => return ⟨items.head?.getD .null, some (.array items.tail)⟩
  | "slice" =>
    let bounds ← (sliceBounds argument : Except Fault (List Float))
    return ⟨.array (slice items bounds), none⟩
  | other => throw (.unsupported "array operation" other)

def arrayOperation : Executor := fun s _ node => do
  match ← s.requireInput node 1 with
  | .array items =>
    let props := s.props node
    let update ← updateArray (props.text "operation") (props.text "argument") items
    update.apply s node
    return .proceed
  | other => throw (.typeMismatch "array operation" "Array" other)

def updateObject (operation key value : String) (members : Members) :
    ExceptT Fault RunM Update := do
  match operation with
  | "get" => return ⟨(members.get? key).getD .null, none⟩
  | "set" => return .to (.object (members.insert key (← argumentValue value)))
  | "delete" => return .to (.object (members.erase key))
  | "has" => return ⟨.bool (members.contains key), none⟩
  | other => throw (.unsupported "object operation" other)

def objectOperation : Executor := fun s _ node => do
  match ← s.requireInput node 1 with
  | .object members =>
    let props := s.props node
    let update ←
      updateObject (props.text "operation") (props.text "key") (props.text "value") members
    update.apply s node
    return .proceed
  | other => throw (.typeMismatch "object operation" "Object" other)

/-- Functions exist in generated text only. -/
def function : Executor := fun s _ node =>
  throw (.unsupported "function call" ((s.props node).text "name"))

end ScriptGraph.Script.Execute
