import ScriptGraph.Json.Value
import ScriptGraph.Decimal.Layout

/-! # Written JSON

A piece of JSON is written on one line, or with one item a line and an indent that grows with the
depth. Pieces are put together from smaller ones, so a record can list its fields in an order of its
own.
-/

namespace ScriptGraph.Json

/-- How items are set. -/
inductive Style where
  | compact
  /-- One item a line, each level indented by so many blanks. -/
  | indented (width : Nat)

/-- What comes before an item, and before the bracket that closes a nonempty list of them. -/
def Style.newline (style : Style) (depth : Nat) : List Char :=
  match style with
  | .compact => []
  | .indented width => '\n' :: List.replicate (width * depth) ' '

/-- What stands between a key and its value. -/
def Style.colon : Style → List Char
  | .compact => [':']
  | .indented _ => [':', ' ']

/-- A digit of base sixteen. -/
def hexDigit (n : Nat) : Char :=
  if n < 10 then Char.ofNat (n + '0'.toNat) else Char.ofNat (n - 10 + 'a'.toNat)

/-- A character inside of quotes. -/
def escape (c : Char) : List Char :=
  if c = '"' then ['\\', '"']
  else if c = '\\' then ['\\', '\\']
  else if c = '\x08' then ['\\', 'b']
  else if c = '\t' then ['\\', 't']
  else if c = '\n' then ['\\', 'n']
  else if c = '\x0c' then ['\\', 'f']
  else if c = '\r' then ['\\', 'r']
  else if c.toNat < 32 then ['\\', 'u', '0', '0', hexDigit (c.toNat / 16), hexDigit (c.toNat % 16)]
  else [c]

def quoteChars (s : String) : List Char :=
  '"' :: s.toList.flatMap escape ++ ['"']

/-- A text in double quotes. -/
def quote (s : String) : String :=
  String.ofList (quoteChars s)

/-- A piece of JSON at any depth. -/
abbrev Rendering := (style : Style) → (depth : Nat) → List Char

namespace Rendering

def raw (text : String) : Rendering := fun _ _ => text.toList

def string (s : String) : Rendering := fun _ _ => quoteChars s

def bool (b : Bool) : Rendering := raw (if b then "true" else "false")

/-- The items after the first, each with the comma before it. -/
def rest (style : Style) (depth : Nat) : List Rendering → List Char
  | [] => []
  | item :: items => ',' :: style.newline depth ++ item style depth ++ rest style depth items

/-- Items between brackets. -/
def enclose (left right : Char) (items : List Rendering) : Rendering := fun style depth =>
  match items with
  | [] => [left, right]
  | item :: items =>
    left :: style.newline (depth + 1) ++ item style (depth + 1) ++ rest style (depth + 1) items ++
      style.newline depth ++ [right]

def array (items : List Rendering) : Rendering := enclose '[' ']' items

def member (key : String) (value : Rendering) : Rendering := fun style depth =>
  quoteChars key ++ style.colon ++ value style depth

def object (members : List (String × Rendering)) : Rendering :=
  enclose '{' '}' (members.map fun (key, value) => member key value)

def toString (r : Rendering) (style : Style) : String :=
  String.ofList (r style 0)

end Rendering

def Number.text : Number → String
  | .int n _ => toString n
  | .float x _ => Decimal.scientific x

namespace Value

mutual

def rendering : Value → Rendering
  | .null => .raw "null"
  | .bool b => .bool b
  | .number n => .raw n.text
  | .string s => .string s
  | .array items => .array (renderings items)
  | .object members => .object (memberRenderings members)

def renderings : List Value → List Rendering
  | [] => []
  | v :: vs => rendering v :: renderings vs

def memberRenderings : List (String × Value) → List (String × Rendering)
  | [] => []
  | (k, v) :: ms => (k, rendering v) :: memberRenderings ms

end

/-- The value on one line. -/
def compact (v : Value) : String :=
  v.rendering.toString .compact

end Value

end ScriptGraph.Json
