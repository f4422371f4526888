import ScriptGraph.Decimal.Layout
import ScriptGraph.Decimal.Reader
import ScriptGraph.Json.Printer
import ScriptGraph.Text.Blank

/-! # Literals

How values appear in generated text.
-/

namespace ScriptGraph.Source

/-- A number as the target language prints it: below `1e15` a whole number shows no fraction and no
sign of zero. -/
def formatNumber (x : Float) : String :=
  if x.isNaN then "NaN"
  else if x.isInf then (if x > 0 then "Infinity" else "-Infinity")
  else match Decimal.integer? x with
    | some n => if n.natAbs < 1000000000000000 then toString n else Decimal.plain x
    | none => Decimal.plain x

/-- A text read as a decimal and written as a number. -/
def numberLiteral (text : String) : String :=
  match Decimal.read? text with
  | some x => formatNumber x
  | none => "NaN"

/-- A property value as a literal of a declared type. Values of structured types are source text
already. -/
def typedLiteral (type text : String) : String :=
  if type = "string" then Json.quote text
  else if type = "number" then
    let trimmed := Text.trim text
    if trimmed.isEmpty then "0" else numberLiteral trimmed
  else if type = "boolean" then (if text = "true" then "true" else "false")
  else text

/-- The number that a switch compares with. -/
def caseNumber (text : String) : String :=
  numberLiteral (Text.trim text)

end ScriptGraph.Source
