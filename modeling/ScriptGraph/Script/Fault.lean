import ScriptGraph.Http.Message
import ScriptGraph.Json.Failure
import ScriptGraph.Json.Printer
import ScriptGraph.Text.Base64
import ScriptGraph.Text.Utf8

/-! # Faults

What can go wrong while a node is executed.
-/

namespace ScriptGraph.Script

inductive Fault where
  | missingInput (port : String)
  | typeMismatch (operation expected : String) (found : Json.Value)
  | nonFinite (operation : String)
  | loopLimit (limit : Nat)
  | unsupported (what value : String)
  | http (failure : Http.Failure)
  | json (error : Json.ReadError)
  | base64 (fault : Text.Base64.Fault)
  | utf8 (fault : Text.Utf8.Fault)

def Fault.message : Fault → String
  | .missingInput port => s!"Input '{port}' is not connected or has no value"
  | .typeMismatch operation expected found =>
    s!"Type mismatch during operation '{operation}': expected {expected}, but found value " ++
      s!"'{found.compact}'"
  | .nonFinite operation => s!"Operation '{operation}' produced a non-finite number"
  | .loopLimit limit => s!"Loop stopped after reaching the limit of {limit} iterations"
  | .unsupported what value => s!"Unsupported {what}: '{value}'"
  | .http failure => s!"HTTP request failed: {failure.message}"
  | .json error => s!"JSON error: {error.message}"
  | .base64 fault => s!"Invalid Base64 input: {fault.message}"
  | .utf8 fault => s!"Decoded bytes are not valid UTF-8: {fault.message}"

end ScriptGraph.Script
