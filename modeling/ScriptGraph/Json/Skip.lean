import ScriptGraph.Json.Reader

/-! # Skipping JSON

A field that nobody asks for is passed over. Its text must be JSON, but numbers may have any size,
escapes may stand for no character, and nesting has no limit: the open brackets are kept in a list.
-/

namespace ScriptGraph.Json.Reader

/-- A bracket that is still open. -/
inductive Bracket where
  | list
  | object
  deriving DecidableEq

def skipExponent (cs : List Char) : Except Failure (List Char) :=
  let cs :=
    match cs with
    | '+' :: cs => cs
    | '-' :: cs => cs
    | cs => cs
  match cs with
  | [] => failAt .invalidNumber []
  | c :: rest =>
    if c.isDigit then .ok (rest.dropWhile Char.isDigit) else failNext .invalidNumber cs

def skipFraction (cs : List Char) : Except Failure (List Char) :=
  if !startsWithDigit cs then failNext .invalidNumber cs
  else match cs.dropWhile Char.isDigit with
    | [] => .ok []
    | c :: rest => if isExponentMark c then skipExponent rest else .ok (c :: rest)

/-- Passes over a number after its sign. -/
def skipNumber (cs : List Char) : Except Failure (List Char) :=
  match cs with
  | [] => failAt .invalidNumber []
  | c :: tail =>
    if !c.isDigit then failNext .invalidNumber cs
    else if c = '0' && startsWithDigit tail then failNext .invalidNumber tail
    else match tail.dropWhile Char.isDigit with
      | [] => .ok []
      | '.' :: rest => skipFraction rest
      | d :: rest => if isExponentMark d then skipExponent rest else .ok (d :: rest)

/-- Passes over what follows a backslash. -/
def skipEscaped (cs : List Char) : Except Failure (List Char) :=
  match cs with
  | [] => failAt .eofString []
  | c :: rest =>
    if c = 'u' then (·.2) <$> hexFour rest
    else if (shortEscape? c).isSome then .ok rest
    else failNext .invalidEscape cs

/-- Passes over a string after its opening quote. -/
def skipStringTail : (steps : Nat) → List Char → Except Failure (List Char)
  | 0, _ => failAt .eofString []
  | _, [] => failAt .eofString []
  | steps + 1, c :: cs =>
    if c = '"' then .ok cs
    else if c = '\\' then
      match skipEscaped cs with
      | .ok rest => skipStringTail steps rest
      | .error failure => .error failure
    else if c.toNat < 32 then failAt .controlCharacter (c :: cs)
    else skipStringTail steps cs

def skipString (cs : List Char) : Except Failure (List Char) :=
  skipStringTail cs.length cs

/-- Passes over a key and its colon. -/
def skipKey (cs : List Char) : Except Failure (List Char) :=
  match skipSpace cs with
  | [] => failNext .eofObject []
  | '"' :: rest => do colon (← skipString rest)
  | rest => failNext .keyNotString rest

/-- Goes on after a value, or after an opening bracket when `value` is false: closes brackets as
long as the text does. The brackets left open are returned with the beginning of the next value;
none are left when the outermost value has ended. -/
def skipClosing : (value : Bool) → (brackets : List Bracket) → List Char →
    Except Failure (List Bracket × List Char)
  | _, [], cs => .ok ([], cs)
  | value, bracket :: outer, cs =>
    let next (rest : List Char) := do
      match bracket with
      | .list => return (bracket :: outer, rest)
      | .object => return (bracket :: outer, ← skipKey rest)
    match bracket, skipSpace cs with
    | .list, [] => failNext .eofList []
    | .object, [] => failNext .eofObject []
    | .list, ']' :: rest => skipClosing true outer rest
    | .object, '}' :: rest => skipClosing true outer rest
    | bracket, c :: rest =>
      if !value then next (c :: rest)
      else if c = ',' then next rest
      else match bracket with
        | .list => failNext .expectedListEnd (c :: rest)
        | .object => failNext .expectedObjectEnd (c :: rest)

/-- Passes over a value and over all that closes the open brackets. Each step takes a character, so
the length of the text bounds the steps. -/
def skipWithin : (steps : Nat) → (brackets : List Bracket) → List Char →
    Except Failure (List Char)
  | 0, _, _ => failNext .eofValue []
  | steps + 1, brackets, cs => do
    let after ←
      match skipSpace cs with
      | [] => failNext .eofValue []
      | c :: rest =>
        if c = 'n' then skipClosing true brackets (← literal ['u', 'l', 'l'] rest)
        else if c = 't' then skipClosing true brackets (← literal ['r', 'u', 'e'] rest)
        else if c = 'f' then skipClosing true brackets (← literal ['a', 'l', 's', 'e'] rest)
        else if c = '-' then skipClosing true brackets (← skipNumber rest)
        else if c.isDigit then skipClosing true brackets (← skipNumber (c :: rest))
        else if c = '"' then skipClosing true brackets (← skipString rest)
        else if c = '[' then skipClosing false (.list :: brackets) rest
        else if c = '{' then skipClosing false (.object :: brackets) rest
        else failNext .expectedValue (c :: rest)
    match after with
    | ([], rest) => return rest
    | (brackets, rest) => skipWithin steps brackets rest

/-- Passes over one value. -/
def skipValue (cs : List Char) : Except Failure (List Char) :=
  skipWithin (cs.length + 1) [] cs

end ScriptGraph.Json.Reader
