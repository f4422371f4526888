import ScriptGraph.Script.Execute.Data

/-! # Executing contact with the outside

The kinds that write to the console, send requests and convert texts.
-/

namespace ScriptGraph.Script.Execute

open Setting
open Json (Value)

def log : Executor := fun s _ node => do
  let props := s.props node
  let message :=
    match ← s.input node 1 with
    | some value => display value
    | none => (props.nonEmpty? "message").getD "Empty log message"
  print (Level.ofName (props.text "logType")) message
  return .proceed

/-- The request that a node describes. Its method is written in capitals. -/
def requestOf (props : Props) (method : String) : Except Fault Http.Request :=
  let headers := (props.members "headers").map fun (name, value) => (name, display value)
  let body := props.text "body"
  match Http.Request.build method (props.text "url") headers
      (if Http.sendsBody method body then some body else none) with
  | .ok request => .ok request
  | .error failure => .error (.http failure)

/-- Sends a request and takes the text of what comes back. -/
def sendRequest (s : Setting) (request : Http.Request) :
    ExceptT Fault RunM (Http.Response × String) := do
  match ← s.send request with
  | none => throw (.http (.connection request.url.text))
  | some response =>
    match response.text request.method with
    | .ok body => return (response, body)
    | .error failure => throw (.http failure)

def httpRequest : Executor := fun s _ node => do
  let props := s.props node
  let address := props.text "url"
  let name := (props.nonEmpty? "method").getD "GET"
  let method := Text.toUpper name
  if !Http.isToken method then throw (.unsupported "HTTP method" name)
  trace s!"Sending HTTP request: {method} {address}"
  let request ← (requestOf props method : Except Fault Http.Request)
  let (response, body) ← sendRequest s request
  trace "HTTP Request successful"
  trace s!"Response body: {body}"
  trace s!"Status code: {response.status}"
  record node 1 (.string body)
  record node 2 (.number (.ofUInt16 response.status))
  record node 3 (.object response.headerFields)
  return .proceed

/-- How a value is converted. -/
structure Conversion where
  /-- What a run calls it. -/
  label : String
  apply : Value → Props → Except Fault Value

def convert (c : Conversion) : Executor := fun s _ node => do
  let input ← s.requireInput node 1
  let result ← (c.apply input (s.props node) : Except Fault Value)
  trace s!"{c.label} result: {display result}"
  s.recordPrimary node result
  return .proceed

/-- The text that an operation needs. -/
def requireText (operation : String) : Value → Except Fault String
  | .string s => .ok s
  | other => .error (.typeMismatch operation "String" other)

def parseText (value : Value) : Except Fault Value := do
  let text ← requireText "JSON.parse" value
  match Json.parse text with
  | .ok result => return result
  | .error error => throw (.json error)

/-- By how many blanks a level is indented at most. -/
def maxIndent : Nat := 10

/-- The style that a number of blanks asks for; without blanks everything stands on one line. -/
def styleOf (space : Float) : Json.Style :=
  match Decimal.clampToNat maxIndent space with
  | 0 => .compact
  | width => .indented width

def stringify (value : Value) (props : Props) : Value :=
  .string (value.rendering.toString (styleOf ((props.number? "space").getD 0)))

def encodeText (value : Value) : Value :=
  .string (Text.Base64.encode (Text.Utf8.encode (display value)))

def decodeText (value : Value) : Except Fault Value := do
  let text ← requireText "atob" value
  match Text.Base64.decode (Text.Utf8.encode (Text.trim text)) with
  | .error fault => throw (.base64 fault)
  | .ok bytes =>
    match Text.Utf8.decode bytes with
    | .error fault => throw (.utf8 fault)
    | .ok decoded => return .string decoded

def jsonParse : Conversion where
  label := "JSON Parse"
  apply value _ := parseText value

def jsonStringify : Conversion where
  label := "JSON Stringify"
  apply value props := .ok (stringify value props)

def base64Encode : Conversion where
  label := "Base64 Encode"
  apply value _ := .ok (encodeText value)

def base64Decode : Conversion where
  label := "Base64 Decode"
  apply value _ := decodeText value

/-- How each built-in kind is executed. -/
def builtin : Kind → Executor
  | .onStart => onStart
  | .ifThen => ifThen
  | .condition => condition
  | .switch => switch
  | .whileLoop => whileLoop
  | .forLoop => forLoop
  | .waitForSeconds => waitForSeconds
  | .var => var
  | .constant => constant
  | .mathOperation => mathOperation
  | .random => random
  | .arrayOperation => arrayOperation
  | .objectOperation => objectOperation
  | .function => function
  | .log => log
  | .httpRequest => httpRequest
  | .jsonParse => convert jsonParse
  | .jsonStringify => convert jsonStringify
  | .base64Encode => convert base64Encode
  | .base64Decode => convert base64Decode

end ScriptGraph.Script.Execute
