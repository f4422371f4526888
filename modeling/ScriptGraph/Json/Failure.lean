import ScriptGraph.Decimal.Layout
import ScriptGraph.Text.Printable

/-! # Refused JSON

Why a text is refused, and where. A text can fail to be JSON, it can end too early, and it can hold
data of another shape than the one asked for.
-/

namespace ScriptGraph.Json

/-- What stands where something of another shape was expected. -/
inductive Found where
  | null
  | bool (b : Bool)
  | int (n : Int)
  | float (x : Float)
  | string (s : String)
  | list
  | object

/-- A character of a quoted text in a message. -/
def shownChar (c : Char) : String :=
  if c = '"' then "\\\""
  else if c = '\\' then "\\\\"
  else if c = '\t' then "\\t"
  else if c = '\n' then "\\n"
  else if c = '\r' then "\\r"
  else if c = '\x00' then "\\0"
  else if Text.isPrintable c then c.toString
  else "\\u\x7b" ++ String.ofList (Nat.toDigits 16 c.toNat) ++ "\x7d"

def Found.text : Found → String
  | .null => "null"
  | .bool b => s!"boolean `{b}`"
  | .int n => s!"integer `{n}`"
  | .float x => "floating point `" ++ Decimal.scientific x ++ "`"
  | .string s => "string \"" ++ String.join (s.toList.map shownChar) ++ "\""
  | .list => "sequence"
  | .object => "map"

/-- How data differs from the shape asked for. -/
inductive Mismatch where
  | invalidType (found : Found) (expected : String)
  | invalidValue (found : Found) (expected : String)
  | invalidLength (length : Nat) (expected : String)
  | missingField (name : String)
  | duplicateField (name : String)
  | unknownVariant (name : String) (known : List String)
  | noVariant (type : String)

/-- Names one after the other, as a message lists them. -/
def listedNames : List String → String
  | [] => "there are no variants"
  | [a] => s!"expected `{a}`"
  | [a, b] => s!"expected `{a}` or `{b}`"
  | names => "expected one of " ++ ", ".intercalate (names.map fun n => s!"`{n}`")

def Mismatch.message : Mismatch → String
  | .invalidType found expected => s!"invalid type: {found.text}, expected {expected}"
  | .invalidValue found expected => s!"invalid value: {found.text}, expected {expected}"
  | .invalidLength length expected => s!"invalid length {length}, expected {expected}"
  | .missingField name => s!"missing field `{name}`"
  | .duplicateField name => s!"duplicate field `{name}`"
  | .unknownVariant name known => s!"unknown variant `{name}`, {listedNames known}"
  | .noVariant type => s!"data did not match any variant of untagged enum {type}"

/-- Why a text is refused. -/
inductive Cause where
  | eofValue | eofList | eofObject | eofString
  | expectedValue | expectedIdent | expectedColon | expectedListEnd | expectedObjectEnd
  | keyNotString | trailingComma | trailingCharacters
  | invalidNumber | numberOutOfRange
  | invalidEscape | loneSurrogate | unfinishedSurrogate | controlCharacter
  | tooDeep
  | data (mismatch : Mismatch)

def Cause.message : Cause → String
  | .eofValue => "EOF while parsing a value"
  | .eofList => "EOF while parsing a list"
  | .eofObject => "EOF while parsing an object"
  | .eofString => "EOF while parsing a string"
  | .expectedValue => "expected value"
  | .expectedIdent => "expected ident"
  | .expectedColon => "expected `:`"
  | .expectedListEnd => "expected `,` or `]`"
  | .expectedObjectEnd => "expected `,` or `\x7d`"
  | .keyNotString => "key must be a string"
  | .trailingComma => "trailing comma"
  | .trailingCharacters => "trailing characters"
  | .invalidNumber => "invalid number"
  | .numberOutOfRange => "number out of range"
  | .invalidEscape => "invalid escape"
  | .loneSurrogate => "lone leading surrogate in hex escape"
  | .unfinishedSurrogate => "unexpected end of hex escape"
  | .controlCharacter =>
    "control character (\\u0000-\\u001F) found while parsing a string"
  | .tooDeep => "recursion limit exceeded"
  | .data mismatch => mismatch.message

/-- The kinds of refusal. -/
inductive Category where
  | incomplete
  | malformed
  | data
  deriving DecidableEq

def Cause.category : Cause → Category
  | .eofValue | .eofList | .eofObject | .eofString => .incomplete
  | .data _ => .data
  | _ => .malformed

/-- A refusal while the text is being read: `rest` is what was left, and `ahead` counts the bytes of
it that the place of the fault lies further on. A fault of data has no place of its own until the
record around it has been read to its end. -/
structure Failure where
  cause : Cause
  rest : List Char
  ahead : Nat := 0
  placed : Bool := true

/-- A refusal at a place of a text. Lines count from one and columns count bytes. -/
structure ReadError where
  cause : Cause
  line : Nat
  column : Nat

/-- The line and column after so many bytes. -/
def position : (bytes : Nat) → (line column : Nat) → List Char → Nat × Nat
  | _, line, column, [] => (line, column)
  | bytes, line, column, c :: rest =>
    if bytes = 0 then (line, column)
    else if c = '\n' then position (bytes - 1) (line + 1) 0 rest
    else position (bytes - c.utf8Size) line (column + min bytes c.utf8Size) rest

def byteLength (cs : List Char) : Nat :=
  cs.foldl (fun n c => n + c.utf8Size) 0

/-- The place of a failure in the text that was read. -/
def Failure.locate (f : Failure) (text : List Char) : ReadError :=
  let bytes := byteLength text - byteLength f.rest + f.ahead
  let (line, column) := position bytes 1 0 text
  ⟨f.cause, line, column⟩

def ReadError.message (e : ReadError) : String :=
  s!"{e.cause.message} at line {e.line} column {e.column}"

end ScriptGraph.Json
