import ScriptGraph.Graph.Basic
import ScriptGraph.Kind.Descriptor
import ScriptGraph.Decimal.Leading
import ScriptGraph.Json.Reader

/-! # Properties

The properties of a node, with the defaults of its kind filled in, read leniently: an inspector
stores numbers and flags as text as well.
-/

namespace ScriptGraph

open Json (Value Members)

/-- The text of a value that stands where a text is wanted. `null` is empty, and what is no text
shows as JSON. -/
def Json.Value.asText : Value → String
  | .string s => s
  | .null => ""
  | other => other.compact

/-- Read access to the properties of a node. -/
structure Props where
  own : Json.Members
  schema : Option KindDescriptor

namespace Props

/-- The stored value, or else the default. -/
def get? (p : Props) (name : String) : Option Value :=
  (p.own.get? name).or (p.schema.bind (·.defaultOf? name))

def text (p : Props) (name : String) : String :=
  match p.get? name with
  | some value => value.asText
  | none => ""

/-- The text, unless it is empty. -/
def nonEmpty? (p : Props) (name : String) : Option String :=
  let s := p.text name
  if s.isEmpty then none else some s

def number? (p : Props) (name : String) : Option Float :=
  match p.get? name with
  | some (.number n) => some n.toFloat
  | some (.string s) => Decimal.leading? s
  | some (.bool b) => some (if b then 1 else 0)
  | _ => none

def flag (p : Props) (name : String) : Bool :=
  match p.get? name with
  | some (.bool b) => b
  | some (.string s) => s = "true"
  | some (.number n) => n.toFloat != 0
  | _ => false

def list (p : Props) (name : String) : List Value :=
  match p.get? name with
  | some (.array items) => items
  | _ => []

/-- The members of the object that a text spells out. A text that spells none has none. -/
def members (p : Props) (name : String) : Members :=
  match Json.parse (p.text name) with
  | .ok (.object members) => members
  | _ => []

end Props

/-- The items of a list that have the right shape; a value that is no list has none. -/
def wellFormed {α : Type} (ofValue? : Value → Option α) : Option Value → List α
  | some (.array items) => items.filterMap ofValue?
  | _ => []

/-- One case of a switch. -/
structure SwitchCase where
  value : String := ""
  type : String := "string"
  outputLabel : Option String := none
  deriving DecidableEq

namespace SwitchCase

def withType? (c : SwitchCase) (value : Value) : Option SwitchCase :=
  value.asString?.map fun type => { c with type }

def withLabel? (c : SwitchCase) : Value → Option SwitchCase
  | .null => some { c with outputLabel := none }
  | .string label => some { c with outputLabel := some label }
  | _ => none

/-- Reads a case from an object, or from a list of value, type and label. -/
def ofValue? : Value → Option SwitchCase
  | .array [] => some {}
  | .array [value] => some { value := value.asText }
  | .array [value, type] => withType? { value := value.asText } type
  | .array [value, type, label] => do
    (← withType? { value := value.asText } type).withLabel? label
  | .object members => do
    let c : SwitchCase := { value := ((Members.get? members "value").map (·.asText)).getD "" }
    let c ← match Members.get? members "type" with
      | some type => c.withType? type
      | none => some c
    match Members.get? members "outputLabel", Members.get? members "output" with
    | some _, some _ => none
    | some label, none => c.withLabel? label
    | none, some label => c.withLabel? label
    | none, none => some c
  | _ => none

/-- The cases of a `cases` property. -/
def list (value : Option Value) : List SwitchCase :=
  wellFormed ofValue? value

/-- The name of the output that the case at an index drives. -/
def label (c : SwitchCase) (index : Nat) : String :=
  match c.outputLabel with
  | some label => if label.isEmpty then s!"Case {index + 1}" else label
  | none => s!"Case {index + 1}"

end SwitchCase

/-- One parameter of a called function. -/
structure FunctionParameter where
  name : String
  type : String := "string"
  deriving DecidableEq

namespace FunctionParameter

/-- Reads a parameter from an object, or from a list of name and type. -/
def ofValue? : Value → Option FunctionParameter
  | .array [.string name] => some { name }
  | .array [.string name, .string type] => some { name, type }
  | .object members => do
    let name ← (← Members.get? members "name").asString?
    match Members.get? members "type" with
    | some type => type.asString?.map fun type => { name, type }
    | none => some { name }
  | _ => none

/-- The parameters of a `parameters` property. -/
def list (value : Option Value) : List FunctionParameter :=
  wellFormed ofValue? value

end FunctionParameter

end ScriptGraph
