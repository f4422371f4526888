import ScriptGraph.Json.Value
import ScriptGraph.Json.Failure
import ScriptGraph.Text.Hexadecimal

/-! # Reading JSON

Values are read from the front of a list of characters; what is left is handed on. Nesting is
limited, and the limit is what the recursion runs on.
-/

namespace ScriptGraph.Json

namespace Reader

/-- A failure at the characters that are left. -/
def failAt {α : Type} (cause : Cause) (rest : List Char) : Except Failure α :=
  .error { cause, rest }

/-- A failure at the next byte. -/
def failNext {α : Type} (cause : Cause) (rest : List Char) : Except Failure α :=
  .error { cause, rest, ahead := 1 }

/-- A failure of data whose place is found by whoever reads the record around it. -/
def failUnplaced {α : Type} (mismatch : Mismatch) (rest : List Char) : Except Failure α :=
  .error { cause := .data mismatch, rest, placed := false }

def isSpace (c : Char) : Bool :=
  c = ' ' || c = '\n' || c = '\t' || c = '\r'

def skipSpace (cs : List Char) : List Char :=
  cs.dropWhile isSpace

/-- Reads the rest of a literal name. -/
def literal : (name : List Char) → List Char → Except Failure (List Char)
  | [], cs => .ok cs
  | _ :: _, [] => failAt .eofValue []
  | expected :: name, c :: cs =>
    if c = expected then literal name cs else failNext .expectedIdent (c :: cs)

/-! ### Numbers -/

/-- A number as the text gives it. -/
inductive Numeral where
  | int (n : Int)
  | float (x : Float)

/-- The least power of ten that no double reaches. -/
def powerLimit : Nat := 309

def powerOfTen (n : Nat) : Float :=
  Float.ofScientific 1 false n

/-- Scales by a power of ten, by the greatest one a double holds as long as the exponent is below
it. `none` when the number is out of range. -/
def scale : (steps : Nat) → (x : Float) → (exponent : Int) → Option Float
  | 0, _, _ => some 0
  | steps + 1, x, exponent =>
    if exponent.natAbs < powerLimit then
      if 0 ≤ exponent then
        let y := x * powerOfTen exponent.natAbs
        if y.isInf then none else some y
      else some (x / powerOfTen exponent.natAbs)
    else if x == 0 then some x
    else if 0 ≤ exponent then none
    else scale steps (x / powerOfTen 308) (exponent + 308)

/-- The double of a significand and a power of ten: the significand is rounded first. Three steps
down reach zero from any significand. -/
def assemble (negative : Bool) (significand : Nat) (exponent : Int) (rest : List Char) :
    Except Failure (Numeral × List Char) :=
  match scale 4 (UInt64.ofNat significand).toFloat exponent with
  | some x => .ok (.float (if negative then -x else x), rest)
  | none => failAt .numberOutOfRange rest

/-- The greatest exponent that is counted exactly. -/
def exponentLimit : Nat := 0x7FFFFFFF

/-- The value of the longest prefix of digits that the limit admits, the number of digits in it, and
what is left. -/
def takeDigits (limit : Nat) : (n count : Nat) → List Char → Nat × Nat × List Char
  | n, count, [] => (n, count, [])
  | n, count, c :: cs =>
    if c.isDigit then
      let next := n * 10 + (c.toNat - '0'.toNat)
      if limit < next then (n, count, c :: cs) else takeDigits limit next (count + 1) cs
    else (n, count, c :: cs)

def startsWithDigit : List Char → Bool
  | [] => false
  | c :: _ => c.isDigit

def isExponentMark (c : Char) : Bool :=
  c = 'e' || c = 'E'

/-- Reads an exponent after its sign. -/
def exponentDigits (negative down : Bool) (significand : Nat) (start : Int) (cs : List Char) :
    Except Failure (Numeral × List Char) :=
  match cs with
  | [] => failAt .eofValue []
  | c :: _ =>
    if !c.isDigit then failNext .invalidNumber cs
    else
      let (n, _, rest) := takeDigits exponentLimit 0 0 cs
      match rest with
      | d :: more =>
        if d.isDigit then
          if significand ≠ 0 ∧ !down then failNext .numberOutOfRange rest
          else .ok (.float (if negative then -0.0 else 0.0), more.dropWhile Char.isDigit)
        else assemble negative significand (if down then start - n else start + n) rest
      | [] => assemble negative significand (if down then start - n else start + n) rest

/-- Reads what follows an exponent mark. -/
def exponent (negative : Bool) (significand : Nat) (start : Int) (cs : List Char) :
    Except Failure (Numeral × List Char) :=
  match cs with
  | '+' :: cs => exponentDigits negative false significand start cs
  | '-' :: cs => exponentDigits negative true significand start cs
  | cs => exponentDigits negative false significand start cs

/-- Reads an exponent if there is one. -/
def optionalExponent (negative : Bool) (significand : Nat) (start : Int) (cs : List Char) :
    Except Failure (Numeral × List Char) :=
  match cs with
  | c :: rest =>
    if isExponentMark c then exponent negative significand start rest
    else assemble negative significand start cs
  | [] => assemble negative significand start []

/-- The greatest significand; further digits only count. -/
def significandLimit : Nat := 0xFFFFFFFFFFFFFFFF

/-- Reads what follows a decimal point. -/
def fraction (negative : Bool) (significand : Nat) (start : Int) (cs : List Char) :
    Except Failure (Numeral × List Char) :=
  let (n, count, rest) := takeDigits significandLimit significand 0 cs
  if startsWithDigit rest then
    optionalExponent negative n (start - count) (rest.dropWhile Char.isDigit)
  else if count = 0 then
    match rest with
    | [] => failNext .eofValue []
    | _ => failNext .invalidNumber rest
  else optionalExponent negative n (start - count) rest

/-- Reads a number after its sign. -/
def numeral (negative : Bool) (cs : List Char) : Except Failure (Numeral × List Char) :=
  match cs with
  | [] => failAt .eofValue []
  | c :: tail =>
    if !c.isDigit then failNext .invalidNumber cs
    else if c = '0' && startsWithDigit tail then failNext .invalidNumber tail
    else
      let (n, _, rest) := takeDigits significandLimit 0 0 cs
      let long := rest.takeWhile Char.isDigit
      let rest := rest.drop long.length
      match rest with
      | '.' :: after => fraction negative n long.length after
      | mark :: after =>
        if isExponentMark mark then exponent negative n long.length after
        else finish n long.length rest
      | [] => finish n long.length rest
where
  /-- A number without point and exponent; it is an integer if it fits. -/
  finish (n extra : Nat) (rest : List Char) : Except Failure (Numeral × List Char) :=
    if extra ≠ 0 then assemble negative n extra rest
    else if !negative then .ok (.int n, rest)
    else if n = 0 ∨ signedLimit < n then .ok (.float (-(UInt64.ofNat n).toFloat), rest)
    else .ok (.int (-n), rest)

def Numeral.number? : Numeral → Option Number
  | .int n => Number.ofInt? n
  | .float x => Number.ofFloat? x

/-! ### Strings -/

/-- Reads four hexadecimal digits. The four bytes are taken before they are looked at. -/
def hexFour (cs : List Char) : Except Failure (Nat × List Char) :=
  match cs with
  | a :: b :: c :: d :: rest =>
    match Text.hexValue? a, Text.hexValue? b, Text.hexValue? c, Text.hexValue? d with
    | some a, some b, some c, some d => .ok (((a * 16 + b) * 16 + c) * 16 + d, rest)
    | _, _, _, _ => .error { cause := .invalidEscape, rest := cs, ahead := 4 }
  | _ =>
    if 4 ≤ byteLength cs then .error { cause := .invalidEscape, rest := cs, ahead := 4 }
    else failAt .eofString []

/-- Reads a character after `\u`. One beyond the first plane takes two escapes. -/
def unicodeEscape (cs : List Char) : Except Failure (Char × List Char) := do
  let (high, rest) ← hexFour cs
  if 0xDC00 ≤ high ∧ high ≤ 0xDFFF then failAt .loneSurrogate rest
  else if high < 0xD800 ∨ 0xDBFF < high then return (Char.ofNat high, rest)
  else match rest with
    | [] => failAt .eofString []
    | '\\' :: [] => failAt .eofString []
    | '\\' :: 'u' :: rest => do
      let (low, rest) ← hexFour rest
      if low < 0xDC00 ∨ 0xDFFF < low then failAt .loneSurrogate rest
      else return (Char.ofNat (0x10000 + (high - 0xD800) * 0x400 + (low - 0xDC00)), rest)
    | '\\' :: rest => failNext .unfinishedSurrogate rest
    | rest => failNext .unfinishedSurrogate rest

/-- The character of an escape of one letter. -/
def shortEscape? (c : Char) : Option Char :=
  match c with
  | '"' => some '"'
  | '\\' => some '\\'
  | '/' => some '/'
  | 'b' => some '\x08'
  | 'f' => some '\x0c'
  | 'n' => some '\n'
  | 'r' => some '\r'
  | 't' => some '\t'
  | _ => none

/-- Reads a character after a backslash. -/
def escaped (cs : List Char) : Except Failure (Char × List Char) :=
  match cs with
  | [] => failAt .eofString []
  | c :: rest =>
    if c = 'u' then unicodeEscape rest
    else match shortEscape? c with
      | some plain => .ok (plain, rest)
      | none => failNext .invalidEscape cs

/-- Reads a string after its opening quote. Each step takes a character, so the length of the text
bounds the steps. -/
def stringTail : (steps : Nat) → (reversed : List Char) → List Char →
    Except Failure (String × List Char)
  | 0, _, _ => failAt .eofString []
  | _, _, [] => failAt .eofString []
  | steps + 1, reversed, c :: cs =>
    if c = '"' then .ok (String.ofList reversed.reverse, cs)
    else if c = '\\' then
      match escaped cs with
      | .ok (plain, rest) => stringTail steps (plain :: reversed) rest
      | .error failure => .error failure
    else if c.toNat < 32 then failNext .controlCharacter (c :: cs)
    else stringTail steps (c :: reversed) cs

def string (cs : List Char) : Except Failure (String × List Char) :=
  stringTail cs.length [] cs

/-! ### Lists and objects -/

/-- The beginning of the next item of a list, or `none` before the closing bracket. -/
def nextItem (first : Bool) (cs : List Char) : Except Failure (Option (List Char)) :=
  match skipSpace cs with
  | [] => failNext .eofList []
  | ']' :: _ => .ok none
  | c :: rest =>
    if first then .ok (some (c :: rest))
    else if c = ',' then
      match skipSpace rest with
      | [] => failNext .eofValue []
      | ']' :: more => failNext .trailingComma (']' :: more)
      | item => .ok (some item)
    else failNext .expectedListEnd (c :: rest)

/-- Reads the bracket that closes a list. -/
def endList (cs : List Char) : Except Failure (List Char) :=
  match skipSpace cs with
  | [] => failNext .eofList []
  | ']' :: rest => .ok rest
  | ',' :: rest =>
    match skipSpace rest with
    | ']' :: more => failNext .trailingComma (']' :: more)
    | more => failNext .trailingCharacters more
  | rest => failNext .trailingCharacters rest

/-- The text after the quote that opens the next key of an object, or `none` before the closing
brace. -/
def nextKey (first : Bool) (cs : List Char) : Except Failure (Option (List Char)) :=
  match skipSpace cs with
  | [] => failNext .eofObject []
  | '}' :: _ => .ok none
  | c :: rest =>
    if first then
      if c = '"' then .ok (some rest) else failNext .keyNotString (c :: rest)
    else if c = ',' then
      match skipSpace rest with
      | [] => failNext .eofValue []
      | '"' :: key => .ok (some key)
      | '}' :: more => failNext .trailingComma ('}' :: more)
      | more => failNext .keyNotString more
    else failNext .expectedObjectEnd (c :: rest)

/-- Reads the brace that closes an object. -/
def endObject (cs : List Char) : Except Failure (List Char) :=
  match skipSpace cs with
  | [] => failNext .eofObject []
  | '}' :: rest => .ok rest
  | ',' :: rest => failNext .trailingComma (',' :: rest)
  | rest => failNext .trailingCharacters rest

/-- Reads the colon after a key. -/
def colon (cs : List Char) : Except Failure (List Char) :=
  match skipSpace cs with
  | [] => failNext .eofObject []
  | ':' :: rest => .ok rest
  | rest => failNext .expectedColon rest

/-- Reads the items of a list up to its closing bracket. Each item takes a character, so the length
of the text bounds the steps. -/
def items {α : Type} (item : List Char → Except Failure (α × List Char)) :
    (steps : Nat) → (first : Bool) → (reversed : List α) → List Char →
      Except Failure (List α × List Char)
  | 0, _, _, _ => failAt .eofList []
  | steps + 1, first, reversed, cs => do
    match ← nextItem first cs with
    | none => return (reversed.reverse, cs)
    | some cs =>
      let (value, rest) ← item cs
      items item steps false (value :: reversed) rest

/-- Reads the members of an object up to its closing brace. -/
def members {α : Type} (value : List Char → Except Failure (α × List Char)) :
    (steps : Nat) → (first : Bool) → (reversed : List (String × α)) → List Char →
      Except Failure (List (String × α) × List Char)
  | 0, _, _, _ => failAt .eofObject []
  | steps + 1, first, reversed, cs => do
    match ← nextKey first cs with
    | none => return (reversed.reverse, cs)
    | some cs =>
      let (key, rest) ← string cs
      let (v, rest) ← value (← colon rest)
      members value steps false ((key, v) :: reversed) rest

/-! ### Values -/

/-- Reads a number into a value. -/
def number (negative : Bool) (cs : List Char) : Except Failure (Value × List Char) := do
  let (n, rest) ← numeral negative cs
  match n.number? with
  | some n => return (.number n, rest)
  | none => failAt .numberOutOfRange rest

/-- Reads a value in which so many lists and objects may be nested. -/
def value : (depth : Nat) → List Char → Except Failure (Value × List Char)
  | depth, cs =>
    match skipSpace cs with
    | [] => failNext .eofValue []
    | c :: rest =>
      if c = 'n' then do return (.null, ← literal ['u', 'l', 'l'] rest)
      else if c = 't' then do return (.bool true, ← literal ['r', 'u', 'e'] rest)
      else if c = 'f' then do return (.bool false, ← literal ['a', 'l', 's', 'e'] rest)
      else if c = '-' then number true rest
      else if c.isDigit then number false (c :: rest)
      else if c = '"' then do
        let (s, rest) ← string rest
        return (.string s, rest)
      else if c = '[' then
        match depth with
        | 0 => failNext .tooDeep (c :: rest)
        | depth + 1 => do
          let (vs, rest) ← items (value depth) (rest.length + 1) true [] rest
          return (.array vs, ← endList rest)
      else if c = '{' then
        match depth with
        | 0 => failNext .tooDeep (c :: rest)
        | depth + 1 => do
          let (ms, rest) ← members (value depth) (rest.length + 1) true [] rest
          return (.object (Members.ofList ms), ← endObject rest)
      else failNext .expectedValue (c :: rest)

/-- How many lists and objects may be nested. -/
def maxDepth : Nat := 127

/-- Requires that nothing but blanks is left. -/
def finish {α : Type} (outcome : Except Failure (α × List Char)) : Except Failure α := do
  let (result, rest) ← outcome
  match skipSpace rest with
  | [] => return result
  | rest => failNext .trailingCharacters rest

/-- Reads a whole text. -/
def run {α : Type} (read : List Char → Except Failure (α × List Char)) (text : String) :
    Except ReadError α :=
  match finish (read text.toList) with
  | .ok result => .ok result
  | .error failure => .error (failure.locate text.toList)

end Reader

/-- The value that a text stands for. -/
def parse (text : String) : Except ReadError Value :=
  Reader.run (Reader.value Reader.maxDepth) text

end ScriptGraph.Json
