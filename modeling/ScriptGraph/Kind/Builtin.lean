import ScriptGraph.Kind.Descriptor

/-! # Built-in kinds

The kinds of node that an editor ships with, and their descriptors.
-/

namespace ScriptGraph

/-- A kind that has a meaning of its own. -/
inductive Kind where
  | onStart
  | log
  | var
  | constant
  | function
  | mathOperation
  | condition
  | ifThen
  | switch
  | whileLoop
  | forLoop
  | waitForSeconds
  | arrayOperation
  | objectOperation
  | httpRequest
  | jsonParse
  | jsonStringify
  | base64Encode
  | base64Decode
  | random
  deriving DecidableEq

/-- The property, shown only while another property has a value. -/
def PropertySchema.visibleFor (p : PropertySchema) (property value : String) : PropertySchema :=
  { p with visibleWhen := some (property, value) }

namespace Kind

open PortDescriptor (control data)

/-- The built-in kinds in the order in which they are listed. -/
def all : List Kind := [
  onStart, log, var, constant, function, mathOperation, condition, ifThen, switch, whileLoop,
  forLoop, waitForSeconds, arrayOperation, objectOperation, httpRequest, jsonParse, jsonStringify,
  base64Encode, base64Decode, random]

/-- The name that nodes carry. -/
def name : Kind → String
  | onStart => "OnStart"
  | log => "Log"
  | var => "Variable"
  | constant => "Constant"
  | function => "Function"
  | mathOperation => "MathOperation"
  | condition => "Condition"
  | ifThen => "If"
  | switch => "Switch"
  | whileLoop => "WhileLoop"
  | forLoop => "ForLoop"
  | waitForSeconds => "WaitForSeconds"
  | arrayOperation => "ArrayOperation"
  | objectOperation => "ObjectOperation"
  | httpRequest => "HttpRequest"
  | jsonParse => "JSONParse"
  | jsonStringify => "JSONStringify"
  | base64Encode => "Base64Encode"
  | base64Decode => "Base64Decode"
  | random => "Random"

def ofName? (name : String) : Option Kind :=
  all.find? (·.name = name)

/-- The letters and digits that random text is made of by default. -/
def defaultCharset : String :=
  "abcdefghijklmnopqrstuvwxyzABCDEFGHIJKLMNOPQRSTUVWXYZ0123456789"

def textProperty (name : String) (default : String) : PropertySchema :=
  { name, type := .string, default := .string default }

def numberProperty (name : String) (default : UInt16) : PropertySchema :=
  { name, type := .number, default := .number (.ofUInt16 default) }

def selectProperty (name : String) (options : List String) (default : String) : PropertySchema :=
  { name, type := .select, default := .string default, options }

def typeOptions : List String := ["string", "number", "boolean", "object", "array"]

/-- The descriptor of a conversion from one data input to one data output. -/
def conversion (kind : Kind) (group description input output : String) : KindDescriptor where
  name := kind.name
  description
  group
  inputs := [control "In", data input]
  outputs := [control "Out", data output]

def controlFlow : String := "Control Flow"

def dataManipulation : String := "Data Manipulation"

def inputOutput : String := "Input/Output"

def encoding : String := "Encoding"

/-- What a built-in kind is registered with. -/
def descriptor (kind : Kind) : KindDescriptor :=
  let name := kind.name
  match kind with
  | onStart =>
    { name, group := controlFlow, description := "Triggered when the script starts"
      outputs := [control "Next" "Triggered when the script begins execution"]
      entry := true }
  | log =>
    { name, group := inputOutput, description := "Logs a message to the console"
      inputs := [control "In" "Triggers the log operation",
        data "Message" "The message to be logged"]
      outputs := [control "Out" "Triggered after the message is logged"]
      properties := [textProperty "message" "",
        selectProperty "logType" ["log", "error", "warn", "info"] "log"] }
  | var =>
    { name, group := dataManipulation, description := "Stores and retrieves a value"
      inputs := [control "In", data "Set"]
      outputs := [control "Out", data "Get"]
      properties := [textProperty "name" "myVariable", selectProperty "type" typeOptions "string",
        textProperty "initialValue" ""] }
  | constant =>
    { name, group := dataManipulation, description := "Provides a fixed value"
      outputs := [data "Value"]
      properties := [textProperty "value" "", selectProperty "type" typeOptions "string"] }
  | function =>
    { name, group := "Functions", description := "Calls a named function"
      inputs := [control "In"]
      outputs := [control "Out", data "Return"]
      properties := [textProperty "name" "myFunction",
        { name := "parameters", type := .array
          default := .array
            [.object [("name", .string "param1"), ("type", .string "string")]] },
        selectProperty "returnType" ("void" :: typeOptions) "void"]
      dynamic := some .functionParameters }
  | mathOperation =>
    { name, group := dataManipulation, description := "Performs a mathematical operation"
      inputs := [control "In", data "A", data "B"]
      outputs := [control "Out", data "Result"]
      properties := [selectProperty "operation" ["+", "-", "*", "/", "%", "**"] "+"] }
  | condition =>
    { name, group := controlFlow, description := "Branches based on a condition"
      inputs := [control "In", data "Condition"]
      outputs := [control "True", control "False"]
      properties := [textProperty "condition" ""] }
  | ifThen =>
    { name, group := controlFlow
      description := "Compares two values and branches based on the condition"
      inputs := [control "In", data "A", data "B"]
      outputs := [control "True", control "False"]
      properties := [
        selectProperty "operator" ["==", "===", "!=", "!==", ">", "<", ">=", "<="] "=="] }
  | switch =>
    { name, group := controlFlow, description := "Branches based on matching cases"
      inputs := [control "In" "Triggers the switch evaluation",
        data "Value" "The value to switch on"]
      outputs := [control "Default" "Triggered if no cases match"]
      properties := [
        { name := "cases", type := .array
          default := .array [.object [("outputLabel", .string "Case 1"),
            ("type", .string "string"), ("value", .string "")]] },
        { name := "ignoreCase", type := .boolean, default := .bool false }]
      dynamic := some .switchCases }
  | whileLoop =>
    { name, group := controlFlow
      description := "Repeats a set of instructions while a condition is true"
      inputs := [control "In", data "Condition"]
      outputs := [control "Loop", control "Out"]
      properties := [textProperty "condition" "true"] }
  | forLoop =>
    { name, group := controlFlow
      description := "Repeats a set of instructions for a specified number of times"
      inputs := [control "In"]
      outputs := [control "Loop", control "Out"]
      properties := [numberProperty "start" 0, numberProperty "end" 10,
        numberProperty "step" 1] }
  | waitForSeconds =>
    { name, group := controlFlow, description := "Pauses the script"
      inputs := [control "In"]
      outputs := [control "Out"]
      properties := [numberProperty "delay" 1]
      requiresAsync := true }
  | arrayOperation =>
    { name, group := dataManipulation, description := "Performs operations on arrays"
      inputs := [control "In", data "Array"]
      outputs := [control "Out", data "Result"]
      properties := [
        selectProperty "operation"
          ["push", "pop", "shift", "unshift", "slice", "map", "filter", "reduce"] "push",
        textProperty "argument" ""] }
  | objectOperation =>
    { name, group := dataManipulation, description := "Performs operations on objects"
      inputs := [control "In", data "Object"]
      outputs := [control "Out", data "Result"]
      properties := [selectProperty "operation" ["get", "set", "delete", "has"] "get",
        textProperty "key" "", textProperty "value" ""] }
  | httpRequest =>
    { name, group := inputOutput, description := "Sends an HTTP request"
      inputs := [control "In"]
      outputs := [control "Out", data "Response Body", data "Status Code", data "Headers"]
      properties := [textProperty "url" "",
        selectProperty "method" ["GET", "POST", "PUT", "DELETE"] "GET",
        textProperty "headers" "\x7b\x7d", textProperty "body" ""]
      requiresAsync := true }
  | jsonParse =>
    conversion kind dataManipulation "Parses a JSON string into an object" "JSON String"
      "Parsed Object"
  | jsonStringify =>
    { conversion kind dataManipulation "Converts an object to a JSON string" "Object"
        "JSON String" with
      properties := [numberProperty "space" 0] }
  | base64Encode => conversion kind encoding "Encodes a string to Base64" "Input" "Encoded"
  | base64Decode => conversion kind encoding "Decodes a Base64 string" "Encoded" "Decoded"
  | random =>
    { name, group := dataManipulation
      description := "Generates random values of different types"
      inputs := [control "In"]
      outputs := [control "Out", data "Result"]
      properties := [selectProperty "type" ["number", "string", "boolean"] "number",
        (numberProperty "min" 1).visibleFor "type" "number",
        (numberProperty "max" 100).visibleFor "type" "number",
        (numberProperty "length" 10).visibleFor "type" "string",
        (textProperty "charset" defaultCharset).visibleFor "type" "string",
        (numberProperty "probability" 50).visibleFor "type" "boolean"] }

end Kind

end ScriptGraph
