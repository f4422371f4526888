import ScriptGraph.Json.Record
import ScriptGraph.Json.Printer

/-! # Descriptors of kinds

What is known of a kind of node: its ports, the properties it carries with their defaults, whether
it starts a traversal, and whether its ports depend on its properties.
-/

namespace ScriptGraph

open Json (Rendering)

/-- Whether a port carries sequencing or a value. -/
inductive PortKind where
  | control
  | data
  deriving DecidableEq

namespace PortKind

def name : PortKind → String
  | control => "control"
  | data => "data"

def named : List (String × PortKind) :=
  [control, data].map fun k => (k.name, k)

end PortKind

structure PortDescriptor where
  kind : PortKind
  name : String
  description : Option String := none
  deriving DecidableEq

namespace PortDescriptor

def control (name : String) (description : Option String := none) : PortDescriptor :=
  ⟨.control, name, description⟩

def data (name : String) (description : Option String := none) : PortDescriptor :=
  ⟨.data, name, description⟩

end PortDescriptor

/-- How an inspector edits a property. -/
inductive PropertyType where
  | string
  | number
  | boolean
  | select
  | array
  deriving DecidableEq

namespace PropertyType

def name : PropertyType → String
  | string => "string"
  | number => "number"
  | boolean => "boolean"
  | select => "select"
  | array => "array"

def named : List (String × PropertyType) :=
  [string, number, boolean, select, array].map fun t => (t.name, t)

end PropertyType

structure PropertySchema where
  name : String
  type : PropertyType
  default : Json.Value
  options : List String := []
  /-- The property is shown only while the other property has this value. -/
  visibleWhen : Option (String × String) := none

/-- Whether an inspector shows the property for these values. -/
def PropertySchema.isVisible (p : PropertySchema) (properties : Json.Members) : Bool :=
  match p.visibleWhen with
  | none => true
  | some (name, expected) =>
    match (properties.get? name).bind (·.asString?) with
    | some actual => actual = expected
    | none => true

/-- How the ports of a kind depend on properties. -/
inductive DynamicPorts where
  /-- One control output more for each entry of `cases`. -/
  | switchCases
  /-- One data input more for each entry of `parameters`. -/
  | functionParameters
  deriving DecidableEq

namespace DynamicPorts

def name : DynamicPorts → String
  | switchCases => "switchCases"
  | functionParameters => "functionParameters"

def named : List (String × DynamicPorts) :=
  [switchCases, functionParameters].map fun d => (d.name, d)

end DynamicPorts

structure KindDescriptor where
  name : String
  description : String
  group : String
  inputs : List PortDescriptor := []
  outputs : List PortDescriptor := []
  properties : List PropertySchema := []
  /-- Traversal starts at nodes of the kind. -/
  entry : Bool := false
  /-- A node of the kind makes the whole routine asynchronous. -/
  requiresAsync : Bool := false
  dynamic : Option DynamicPorts := none

namespace KindDescriptor

/-- The default of the first property with a name. -/
def defaultOf? (d : KindDescriptor) (property : String) : Option Json.Value :=
  (d.properties.find? (·.name = property)).map (·.default)

end KindDescriptor

/-! ### Reading -/

section Reading

open Json.Reader

def PortDescriptor.read (depth : Nat) :
    List Char → Except Json.Failure (PortDescriptor × List Char) :=
  record "PortDescriptor" [
    .of "kind" true (oneOf PortKind.named) fun p kind => { p with kind },
    .of "name" true (fun _ => text) fun p name => { p with name },
    .of "description" false (fun _ => optional text) fun p description => { p with description }]
    ⟨.control, "", none⟩ depth

def PropertySchema.read (depth : Nat) :
    List Char → Except Json.Failure (PropertySchema × List Char) :=
  record "PropertySchema" [
    .of "name" true (fun _ => text) fun p name => { p with name },
    .of "type" true (oneOf PropertyType.named) fun p type => { p with type },
    .of "default" true value fun p default => { p with default },
    .of "options" false (list fun _ => text) fun p options => { p with options },
    .of "visible_when" false (fun depth => optional (pair text text depth))
      fun p visibleWhen => { p with visibleWhen }]
    { name := "", type := .string, default := .null } depth

def KindDescriptor.read (depth : Nat) :
    List Char → Except Json.Failure (KindDescriptor × List Char) :=
  record "KindDescriptor" [
    .of "name" true (fun _ => text) fun d name => { d with name },
    .of "description" true (fun _ => text) fun d description => { d with description },
    .of "group" true (fun _ => text) fun d group => { d with group },
    .of "inputs" true (list PortDescriptor.read) fun d inputs => { d with inputs },
    .of "outputs" true (list PortDescriptor.read) fun d outputs => { d with outputs },
    .of "properties" true (list PropertySchema.read) fun d properties => { d with properties },
    .of "entry" false (fun _ => boolean) fun d entry => { d with entry },
    .of "requires_async" false (fun _ => boolean) fun d requiresAsync => { d with requiresAsync },
    .of "dynamic" false (fun depth => optional (oneOf DynamicPorts.named depth))
      fun d dynamic => { d with dynamic }]
    { name := "", description := "", group := "" } depth

/-- The descriptor that a JSON text holds. -/
def KindDescriptor.ofJson (text : String) : Except Json.ReadError KindDescriptor :=
  run (KindDescriptor.read maxDepth) text

end Reading

/-! ### Writing -/

/-- A field that is left out when there is nothing to write. -/
def optionalField {α : Type} (name : String) (value : Option α) (render : α → Rendering) :
    List (String × Rendering) :=
  match value with
  | none => []
  | some a => [(name, render a)]

def PortDescriptor.rendering (p : PortDescriptor) : Rendering :=
  .object <| [("kind", .string p.kind.name), ("name", .string p.name)] ++
    optionalField "description" p.description .string

def PropertySchema.rendering (p : PropertySchema) : Rendering :=
  .object <|
    [("name", .string p.name), ("type", .string p.type.name), ("default", p.default.rendering)] ++
    (if p.options.isEmpty then [] else [("options", .array (p.options.map .string))]) ++
    optionalField "visible_when" p.visibleWhen fun (name, value) =>
      .array [.string name, .string value]

def KindDescriptor.rendering (d : KindDescriptor) : Rendering :=
  .object <|
    [("name", .string d.name), ("description", .string d.description),
      ("group", .string d.group),
      ("inputs", .array (d.inputs.map (·.rendering))),
      ("outputs", .array (d.outputs.map (·.rendering))),
      ("properties", .array (d.properties.map (·.rendering))),
      ("entry", .bool d.entry), ("requires_async", .bool d.requiresAsync)] ++
    optionalField "dynamic" d.dynamic fun rule => .string rule.name

end ScriptGraph
