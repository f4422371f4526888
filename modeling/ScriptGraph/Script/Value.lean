import ScriptGraph.Decimal.Reader
import ScriptGraph.Json.Reader
import ScriptGraph.Script.Fault
import ScriptGraph.Text.Blank

/-! # Script values

Values follow loose rules: `+` joins texts as soon as one side is a text, comparisons turn their
operands into numbers, and every value counts as true or false.
-/

namespace ScriptGraph.Script

open Json (Value Number)

/-- A whole number below `9e15`, which shows without a fraction. -/
def smallInteger? (x : Float) : Option Int :=
  match Decimal.integer? x with
  | some n => if n.natAbs < 9000000000000000 then some n else none
  | none => none

/-- The value of a double: an integer where it is a small whole number. A double that is not finite
is no value. -/
def numberValue (x : Float) (operation : String) : Except Fault Value :=
  match (smallInteger? x).bind Value.int? with
  | some value => .ok value
  | none =>
    match Number.ofFloat? x with
    | some n => .ok (.number n)
    | none => .error (.nonFinite operation)

/-- The text that a console shows. -/
def display : Value → String
  | .string s => s
  | .number n =>
    match smallInteger? n.toFloat with
    | some m => toString m
    | none => n.text
  | value => value.compact

def isTruthy : Value → Bool
  | .null => false
  | .bool b => b
  | .number n => n.toFloat != 0 && !n.toFloat.isNaN
  | .string s => !s.isEmpty
  | .array _ | .object _ => true

/-- The number that a value stands for. A text of blanks is zero; lists and objects are no
numbers. -/
def toNumber? : Value → Option Float
  | .null => some 0
  | .bool b => some (if b then 1 else 0)
  | .number n => some n.toFloat
  | .string s =>
    let trimmed := Text.trim s
    if trimmed.isEmpty then some 0 else Decimal.read? trimmed
  | .array _ | .object _ => none

def requireNumber (value : Value) (operation : String) : Except Fault Float :=
  match toNumber? value with
  | some x => .ok x
  | none => .error (.typeMismatch operation "Number" value)

/-- The operators on numbers. -/
def numericOperator? (operation : String) : Option (Float → Float → Float) :=
  match operation with
  | "+" => some (· + ·)
  | "-" => some (· - ·)
  | "*" => some (· * ·)
  | "/" => some (· / ·)
  | "%" => some Decimal.remainder
  | "**" => some Float.pow
  | _ => none

def isString : Value → Bool
  | .string _ => true
  | _ => false

def arithmetic (operation : String) (a b : Value) : Except Fault Value :=
  if operation = "+" ∧ (isString a || isString b) then
    .ok (.string (display a ++ display b))
  else do
    let x ← requireNumber a operation
    let y ← requireNumber b operation
    match numericOperator? operation with
    | some operator => numberValue (operator x y) operation
    | none => .error (.unsupported "math operation" operation)

def isContainer : Value → Bool
  | .array _ | .object _ => true
  | _ => false

/-- Equality after conversion to numbers. `null` equals itself only, texts are compared as they are,
and lists and objects by structure. -/
def looseEquals (a b : Value) : Bool :=
  match a, b with
  | .null, .null => true
  | .null, _ | _, .null => false
  | .string s, .string t => s = t
  | a, b =>
    if isContainer a || isContainer b then a == b
    else match toNumber? a, toNumber? b with
      | some x, some y => x == y
      | _, _ => false

/-- Equality without conversion; numbers are equal when they stand for one double. -/
def strictEquals (a b : Value) : Bool :=
  match a, b with
  | .number m, .number n => m.toFloat == n.toFloat
  | a, b => a == b

/-- How two values lie to each other. -/
inductive Relation where
  | less
  | equal
  | greater
  /-- One of them is no number. -/
  | unordered
  deriving DecidableEq

def relationOfFloats (x y : Float) : Relation :=
  if x < y then .less else if x == y then .equal else if y < x then .greater else .unordered

def relationOfStrings (s t : String) : Relation :=
  if s < t then .less else if s = t then .equal else .greater

/-- Texts are ordered by their characters, everything else by its number. -/
def relation (operator : String) (a b : Value) : Except Fault Relation :=
  match a, b with
  | .string s, .string t => .ok (relationOfStrings s t)
  | a, b => do
    return relationOfFloats (← requireNumber a operator) (← requireNumber b operator)

def compare (operator : String) (a b : Value) : Except Fault Bool :=
  match operator with
  | "==" => .ok (looseEquals a b)
  | "!=" => .ok (!looseEquals a b)
  | "===" => .ok (strictEquals a b)
  | "!==" => .ok (!strictEquals a b)
  | ">" => (· = .greater) <$> relation operator a b
  | "<" => (· = .less) <$> relation operator a b
  | ">=" => (fun r => r = .greater || r = .equal) <$> relation operator a b
  | "<=" => (fun r => r = .less || r = .equal) <$> relation operator a b
  | _ => .error (.unsupported "comparison operator" operator)

/-- A property text read as a value of a declared type. -/
def typedValue (type text : String) : Value :=
  match type with
  | "string" => .string text
  | "number" =>
    let trimmed := Text.trim text
    if trimmed.isEmpty then (Value.int? 0).getD .null
    else match (Decimal.read? trimmed).map (numberValue · "number") with
      | some (.ok value) => value
      | _ => .null
  | "boolean" => .bool (text = "true")
  | _ =>
    match Json.parse text with
    | .ok value => value
    | .error _ => .string text

end ScriptGraph.Script
