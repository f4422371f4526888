import ScriptGraph.Json.Skip

/-! # Reading records

Data of a known shape is read straight from the text, so of two faults the first one counts. A
record stands as an object, with unknown fields passed over, or as a list of its fields in their
order; a field with a default may be absent, in a list only from the end.
-/

namespace ScriptGraph.Json.Reader

/-- The failure for a value of another type than the one expected: a fault of its own if there is
one, and else the mismatch, placed after a value on one line and before a bracket. -/
def unexpected {α : Type} (expected : String) (cs : List Char) : Except Failure α :=
  let mismatch (found : Found) (rest : List Char) : Except Failure α :=
    failAt (.data (.invalidType found expected)) rest
  let number (negative : Bool) (cs : List Char) : Except Failure α := do
    match ← numeral negative cs with
    | (.int n, rest) => mismatch (.int n) rest
    | (.float x, rest) => mismatch (.float x) rest
  match cs with
  | [] => failNext .expectedValue []
  | c :: rest =>
    if c = 'n' then do mismatch .null (← literal ['u', 'l', 'l'] rest)
    else if c = 't' then do mismatch (.bool true) (← literal ['r', 'u', 'e'] rest)
    else if c = 'f' then do mismatch (.bool false) (← literal ['a', 'l', 's', 'e'] rest)
    else if c = '-' then number true rest
    else if c.isDigit then number false cs
    else if c = '"' then do
      let (s, rest) ← string rest
      mismatch (.string s) rest
    else if c = '[' then mismatch .list cs
    else if c = '{' then mismatch .object cs
    else failNext .expectedValue cs

/-- Continues at the first character of a value. -/
def atValue {α : Type} (read : List Char → Except Failure α) (cs : List Char) :
    Except Failure α :=
  match skipSpace cs with
  | [] => failNext .eofValue []
  | cs => read cs

def boolean : List Char → Except Failure (Bool × List Char) :=
  atValue fun
    | 't' :: rest => do return (true, ← literal ['r', 'u', 'e'] rest)
    | 'f' :: rest => do return (false, ← literal ['a', 'l', 's', 'e'] rest)
    | cs => unexpected "a boolean" cs

def textAs (expected : String) : List Char → Except Failure (String × List Char) :=
  atValue fun
    | '"' :: rest => string rest
    | cs => unexpected expected cs

def text : List Char → Except Failure (String × List Char) :=
  textAs "a string"

/-- Reads a number, as an integer or as a double. -/
def anyNumber (expected : String) : List Char → Except Failure (Numeral × List Char) :=
  atValue fun
    | '-' :: rest => numeral true rest
    | cs => if startsWithDigit cs then numeral false cs else unexpected expected cs

def double (cs : List Char) : Except Failure (Float × List Char) := do
  match ← anyNumber "f64" cs with
  | (.int n, rest) => return (Number.floatOfInt n, rest)
  | (.float x, rest) => return (x, rest)

/-- Reads an integer that counts something. -/
def count (cs : List Char) : Except Failure (Nat × List Char) := do
  match ← anyNumber "usize" cs with
  | (.int n, rest) =>
    if n < 0 then failAt (.data (.invalidValue (.int n) "usize")) rest else return (n.toNat, rest)
  | (.float x, rest) => failAt (.data (.invalidType (.float x) "usize")) rest

/-- Reads a value or `null`. -/
def optional {α : Type} (read : List Char → Except Failure (α × List Char)) (cs : List Char) :
    Except Failure (Option α × List Char) :=
  match skipSpace cs with
  | 'n' :: rest => do return (none, ← literal ['u', 'l', 'l'] rest)
  | cs => do
    let (result, rest) ← read cs
    return (some result, rest)

/-- What is left after the attempt to close a list. -/
def settleList (cs : List Char) : List Char :=
  match skipSpace cs with
  | ']' :: rest => rest
  | ',' :: rest => skipSpace rest
  | rest => rest

/-- What is left after the attempt to close an object. -/
def settleObject (cs : List Char) : List Char :=
  match skipSpace cs with
  | '}' :: rest => rest
  | rest => rest

/-- Gives a failure of data its place, once the text around it has been settled. -/
def place {α : Type} (settle : List Char → List Char) (outcome : Except Failure α) :
    Except Failure α :=
  match outcome with
  | .ok result => .ok result
  | .error failure =>
    if failure.placed then .error failure
    else .error { failure with rest := settle failure.rest, placed := true }

/-- Reads what stands in a list, after its opening bracket and up to the closing one. -/
def insideList {α : Type} (read : List Char → Except Failure (α × List Char)) (rest : List Char) :
    Except Failure (α × List Char) :=
  place settleList do
    let (result, rest) ← read rest
    return (result, ← endList rest)

def insideObject {α : Type} (read : List Char → Except Failure (α × List Char))
    (rest : List Char) : Except Failure (α × List Char) :=
  place settleObject do
    let (result, rest) ← read rest
    return (result, ← endObject rest)

/-- Goes one level down, where the limit on nesting allows it. -/
def nested {α : Type} (depth : Nat) (cs : List Char) (read : Nat → Except Failure α) :
    Except Failure α :=
  match depth with
  | 0 => failNext .tooDeep cs
  | depth + 1 => read depth

/-- Reads a list of values of one shape. -/
def list {α : Type} (item : (depth : Nat) → List Char → Except Failure (α × List Char))
    (depth : Nat) : List Char → Except Failure (List α × List Char) :=
  atValue fun
    | '[' :: rest => nested depth ('[' :: rest) fun depth =>
      insideList (items (item depth) (rest.length + 1) true []) rest
    | cs => unexpected "a sequence" cs

/-- Reads an object of free form. -/
def freeObject (depth : Nat) : List Char → Except Failure (Members × List Char) :=
  atValue fun
    | '{' :: rest => nested depth ('{' :: rest) fun depth =>
      insideObject (fun rest => do
        let (ms, rest) ← members (value depth) (rest.length + 1) true [] rest
        return (Members.ofList ms, rest)) rest
    | cs => unexpected "a map" cs

/-- Reads a pair, which stands as a list of two. -/
def pair {α β : Type} (first : List Char → Except Failure (α × List Char))
    (second : List Char → Except Failure (β × List Char)) (depth : Nat) :
    List Char → Except Failure ((α × β) × List Char) :=
  let expected := "a tuple of size 2"
  atValue fun
    | '[' :: rest => nested depth ('[' :: rest) fun _ =>
      insideList (fun rest => do
        match ← nextItem true rest with
        | none => failUnplaced (.invalidLength 0 expected) rest
        | some cs =>
          let (a, rest) ← first cs
          match ← nextItem false rest with
          | none => failUnplaced (.invalidLength 1 expected) rest
          | some cs =>
            let (b, rest) ← second cs
            return ((a, b), rest)) rest
    | cs => unexpected expected cs

/-- Reads one of several names: as a string, or as the key of an object that holds `null`. -/
def oneOf {α : Type} (known : List (String × α)) (depth : Nat) :
    List Char → Except Failure (α × List Char) :=
  let name (cs : List Char) : Except Failure (α × List Char) := do
    let (s, rest) ← textAs "variant identifier" cs
    match known.lookup s with
    | some a => return (a, rest)
    | none => failAt (.data (.unknownVariant s (known.map (·.1)))) rest
  let key : List Char → Except Failure (α × List Char) :=
    atValue fun
      | '"' :: rest => name ('"' :: rest)
      | cs => failNext .keyNotString cs
  atValue fun
    | '"' :: rest => name ('"' :: rest)
    | '{' :: rest => nested depth ('{' :: rest) fun _ => do
      let (a, rest) ← key rest
      let rest ← colon rest
      let rest ← atValue (fun
        | 'n' :: rest => literal ['u', 'l', 'l'] rest
        | cs => unexpected "unit" cs) rest
      match skipSpace rest with
      | [] => failAt .eofObject []
      | '}' :: rest => return (a, rest)
      | rest => failAt .expectedValue rest
    | cs => failNext .expectedValue cs

/-- A field of a record under construction. -/
structure RecordField (σ : Type) where
  name : String
  /-- Other names under which the field is read. -/
  aliases : List String := []
  /-- Whether the record cannot do without it. -/
  required : Bool
  read : (depth : Nat) → σ → List Char → Except Failure (σ × List Char)

namespace RecordField

variable {σ α : Type}

/-- A field read by `read` and stored by `store`. -/
def of (name : String) (required : Bool)
    (read : (depth : Nat) → List Char → Except Failure (α × List Char)) (store : σ → α → σ) :
    RecordField σ where
  name
  required
  read depth record cs := do
    let (a, rest) ← read depth cs
    return (store record a, rest)

def orAlias (f : RecordField σ) (name : String) : RecordField σ :=
  { f with aliases := f.aliases ++ [name] }

def answersTo (f : RecordField σ) (key : String) : Bool :=
  f.name = key || f.aliases.contains key

end RecordField

/-- Reads the members of a record that stands as an object; `seen` names the fields read so far. -/
def recordMembers {σ : Type} (fields : List (RecordField σ)) (depth : Nat) :
    (steps : Nat) → (seen : List String) → (first : Bool) → σ → List Char →
      Except Failure (σ × List Char)
  | 0, _, _, _, _ => failAt .eofObject []
  | steps + 1, seen, first, record, cs => do
    match ← nextKey first cs with
    | none =>
      match fields.find? fun f => f.required && !seen.contains f.name with
      | some f => failUnplaced (.missingField f.name) cs
      | none => return (record, cs)
    | some cs =>
      let (key, rest) ← string cs
      match fields.find? (·.answersTo key) with
      | none => recordMembers fields depth steps seen false record (← skipValue (← colon rest))
      | some f =>
        if seen.contains f.name then failUnplaced (.duplicateField f.name) rest
        else
          let (record, rest) ← f.read depth record (← colon rest)
          recordMembers fields depth steps (f.name :: seen) false record rest

/-- Reads the fields of a record that stands as a list. -/
def recordItems {σ : Type} (expected : String) (depth : Nat) :
    (fields : List (RecordField σ)) → (index : Nat) → σ → List Char → Except Failure (σ × List Char)
  | [], _, record, cs => .ok (record, cs)
  | f :: fields, index, record, cs => do
    match ← nextItem (index = 0) cs with
    | none =>
      if f.required then failUnplaced (.invalidLength index expected) cs
      else recordItems expected depth fields (index + 1) record cs
    | some cs =>
      let (record, rest) ← f.read depth record cs
      recordItems expected depth fields (index + 1) record rest

/-- Reads a record that starts out as `start`. -/
def record {σ : Type} (type : String) (fields : List (RecordField σ)) (start : σ) (depth : Nat) :
    List Char → Except Failure (σ × List Char) :=
  atValue fun
    | '[' :: rest => nested depth ('[' :: rest) fun depth =>
      insideList
        (recordItems s!"struct {type} with {fields.length} elements" depth fields 0 start) rest
    | '{' :: rest => nested depth ('{' :: rest) fun depth =>
      insideObject (recordMembers fields depth (rest.length + 1) [] true start) rest
    | cs => unexpected s!"struct {type}" cs

end ScriptGraph.Json.Reader

namespace ScriptGraph.Json

/-- The members of the object that a text holds. -/
def Members.ofJson (text : String) : Except ReadError Members :=
  Reader.run (Reader.freeObject Reader.maxDepth) text

end ScriptGraph.Json
