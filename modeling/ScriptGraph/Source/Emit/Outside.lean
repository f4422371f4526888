import ScriptGraph.Source.Emit.Data
import ScriptGraph.Http.Message

/-! # Emitting contact with the outside

Statements of the kinds that write to the console, send requests and convert texts. What may fail
stands in a guarded block, and its result is declared before that block, so that later reads are in
scope.
-/

namespace ScriptGraph.Source.Emit

open Setting

def log : Emitter := fun s _ node => do
  let props := s.props node
  let method := (props.nonEmpty? "logType").getD "log"
  let wired ← s.input node 1
  let argument :=
    (wired.or ((props.nonEmpty? "message").map Json.quote)).getD (Json.quote "Empty log message")
  line s!"console.{method}({argument})"
  return .proceed

/-- Writes a block and what is to be done when something in it fails. -/
def guarded (body handler : EmitM Unit) : EmitM Unit := do
  line "try \x7b"
  block body
  line "\x7d catch (error) \x7b"
  block handler
  line "\x7d"

def httpRequest : Emitter := fun s _ node => do
  let props := s.props node
  let url := props.text "url"
  let method := (props.nonEmpty? "method").getD "GET"
  let body := props.text "body"
  let headers := (Json.Value.object (props.members "headers")).compact
  let bodyName ← freshName "responseBody"
  let statusName ← freshName "statusCode"
  let headersName ← freshName "responseHeaders"
  write (.declareAll [bodyName, statusName, headersName])
  guarded
    (do
      line s!"const response = await fetch({Json.quote url}, \x7b"
      block do
        line s!"method: {Json.quote method},"
        line s!"headers: {headers},"
        if Http.sendsBody method body then line s!"body: {Json.quote body},"
      line "\x7d)"
      write (.assign bodyName "await response.text()")
      write (.assign statusName "response.status")
      write (.assign headersName "Object.fromEntries(response.headers.entries())"))
    (line "console.error('HTTP Request failed:', error)")
  record node 1 bodyName
  record node 2 statusName
  record node 3 headersName
  return .proceed

/-- How a conversion appears in the text. -/
structure Conversion where
  /-- The name that the result is derived from. -/
  base : String
  /-- What a failure is reported as. -/
  label : String
  /-- The result of a failure. -/
  fallback : String
  call : (input : String) → Props → String

def convert (c : Conversion) : Emitter := fun s _ node => do
  match ← s.input node 1 with
  | none => warn s!"{node.kind} node is missing its input value"
  | some input =>
    let result ← freshName c.base
    write (.declare .letBinding result none)
    guarded
      (write (.assign result (c.call input (s.props node))))
      (do
        line s!"console.error('{c.label}:', error)"
        write (.assign result c.fallback))
    s.recordPrimary node result
  return .proceed

def jsonParse : Conversion where
  base := "parsedJSON"
  label := "JSON Parse Error"
  fallback := "null"
  call input _ := s!"JSON.parse({input})"

def jsonStringify : Conversion where
  base := "stringifiedJSON"
  label := "JSON Stringify Error"
  fallback := "''"
  call input props :=
    let space := formatNumber ((props.number? "space").getD 0)
    s!"JSON.stringify({input}, null, {space})"

def base64Encode : Conversion where
  base := "base64Encoded"
  label := "Base64 Encode Error"
  fallback := "''"
  call input _ := s!"btoa({input})"

def base64Decode : Conversion where
  base := "base64Decoded"
  label := "Base64 Decode Error"
  fallback := "''"
  call input _ := s!"atob({input})"

/-- How each built-in kind is emitted. -/
def builtin : Kind → Emitter
  | .onStart | .constant => fun _ _ _ => return .proceed
  | .ifThen => ifThen
  | .condition => condition
  | .switch => switch
  | .whileLoop => whileLoop
  | .forLoop => forLoop
  | .waitForSeconds => waitForSeconds
  | .var => var
  | .mathOperation => mathOperation
  | .random => random
  | .arrayOperation => arrayOperation
  | .objectOperation => objectOperation
  | .function => function
  | .log => log
  | .httpRequest => httpRequest
  | .jsonParse => convert jsonParse
  | .jsonStringify => convert jsonStringify
  | .base64Encode => convert base64Encode
  | .base64Decode => convert base64Decode

end ScriptGraph.Source.Emit
