import ScriptGraph.Table
import ScriptGraph.Kind.Builtin
import ScriptGraph.Kind.Properties

/-! # Registries

A registry knows kinds by name, in the order of their first registration. Ports are worked out from
the properties of each node anew.
-/

namespace ScriptGraph

/-- The ports of one node. -/
structure Ports where
  inputs : List PortDescriptor
  outputs : List PortDescriptor
  deriving DecidableEq

namespace Ports

def outputKind? (p : Ports) (index : Nat) : Option PortKind :=
  p.outputs[index]?.map (·.kind)

def inputKind? (p : Ports) (index : Nat) : Option PortKind :=
  p.inputs[index]?.map (·.kind)

/-- The first data output, where a kind with one result puts it. -/
def primaryOutput? (p : Ports) : Option Nat :=
  p.outputs.findIdx? (·.kind = .data)

end Ports

/-- Kinds by name, with the names in the order of their first registration. -/
structure Registry where
  kinds : Table String KindDescriptor := {}
  order : List String := []

namespace Registry

def empty : Registry := {}

/-- Adds a kind, or replaces the one with its name, whose place it takes. -/
def register (r : Registry) (d : KindDescriptor) : Registry where
  kinds := r.kinds.insert d.name d
  order := if r.kinds.contains d.name then r.order else r.order ++ [d.name]

/-- The registry of the built-in kinds. -/
def builtin : Registry :=
  Kind.all.foldl (fun r kind => r.register kind.descriptor) empty

def get? (r : Registry) (kind : String) : Option KindDescriptor :=
  r.kinds.get? kind

def contains (r : Registry) (kind : String) : Bool :=
  r.kinds.contains kind

/-- The descriptors in registration order. -/
def descriptors (r : Registry) : List KindDescriptor :=
  r.order.filterMap r.get?

def isEntry (r : Registry) (kind : String) : Bool :=
  (r.get? kind).any (·.entry)

def requiresAsync (r : Registry) (kind : String) : Bool :=
  (r.get? kind).any (·.requiresAsync)

/-- Registers a kind once more under a name of the user's. -/
def withAlias (r : Registry) (name kind : String) : Registry :=
  match r.get? kind with
  | some d => r.register { d with name }
  | none => r

end Registry

/-- The ports of a kind for given properties. -/
def KindDescriptor.ports (d : KindDescriptor) (properties : Json.Members) : Ports :=
  let value (name : String) := (properties.get? name).or (d.defaultOf? name)
  match d.dynamic with
  | none => ⟨d.inputs, d.outputs⟩
  | some .switchCases =>
    let cases := SwitchCase.list (value "cases")
    ⟨d.inputs, d.outputs ++ cases.mapIdx fun index c => .control (c.label index)⟩
  | some .functionParameters =>
    let parameters := FunctionParameter.list (value "parameters")
    ⟨d.inputs ++ parameters.map fun p => .data p.name s!"Parameter of type {p.type}", d.outputs⟩

namespace Registry

def derivePorts? (r : Registry) (kind : String) (properties : Json.Members) : Option Ports :=
  (r.get? kind).map (·.ports properties)

/-- The ports of a node, if its kind is known. -/
def portsOf? (r : Registry) (node : Node) : Option Ports :=
  r.derivePorts? node.kind node.properties

/-- The properties of a node with the defaults of its kind. -/
def props (r : Registry) (node : Node) : Props :=
  ⟨node.properties, r.get? node.kind⟩

end Registry

end ScriptGraph
