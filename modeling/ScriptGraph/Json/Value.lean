/-! # JSON values

Numbers are integers of at most 64 bits or finite doubles. The members of an object are listed in
the order of their keys, each key once; every operation here keeps that order.
-/

namespace ScriptGraph.Json

/-- The first integer above those of 64 bits with a sign, which begin at its negation. -/
abbrev signedLimit : Nat := 0x8000000000000000

/-- The first integer above those of 64 bits without a sign. -/
abbrev unsignedLimit : Nat := 0x10000000000000000

/-- The integers that are kept as they are: those of 64 bits, with or without a sign. -/
def IsWord (n : Int) : Prop :=
  -signedLimit ≤ n ∧ n < unsignedLimit

instance (n : Int) : Decidable (IsWord n) :=
  inferInstanceAs (Decidable (_ ∧ _))

inductive Number where
  | int (n : Int) (word : IsWord n)
  | float (x : Float) (finite : x.isFinite = true)

namespace Number

/-- The double nearest to a 64 bit integer. -/
def floatOfInt (n : Int) : Float :=
  if 0 ≤ n then (UInt64.ofNat n.toNat).toFloat else -(UInt64.ofNat n.natAbs).toFloat

def toFloat : Number → Float
  | .int n _ => floatOfInt n
  | .float x _ => x

def ofInt? (n : Int) : Option Number :=
  if h : IsWord n then some (.int n h) else none

def ofFloat? (x : Float) : Option Number :=
  if h : x.isFinite = true then some (.float x h) else none

def ofUInt16 (n : UInt16) : Number :=
  .int n.toNat (by have := n.toNat_lt; unfold IsWord signedLimit unsignedLimit; omega)

/-- Equality of representations: an integer never equals a double. -/
def beq : Number → Number → Bool
  | .int m _, .int n _ => m == n
  | .float x _, .float y _ => x == y
  | _, _ => false

instance : BEq Number := ⟨beq⟩

end Number

inductive Value where
  | null
  | bool (b : Bool)
  | number (n : Number)
  | string (s : String)
  | array (items : List Value)
  | object (members : List (String × Value))

/-- The members of an object. -/
abbrev Members := List (String × Value)

namespace Members

/-- Adds a member at its place, or replaces the one with that key. -/
def insert (key : String) (value : Value) : Members → Members
  | [] => [(key, value)]
  | (k, v) :: rest =>
    if key < k then (key, value) :: (k, v) :: rest
    else if key = k then (key, value) :: rest
    else (k, v) :: insert key value rest

def get? (members : Members) (key : String) : Option Value :=
  (members.find? (·.1 = key)).map (·.2)

def erase (members : Members) (key : String) : Members :=
  members.filter (·.1 ≠ key)

def contains (members : Members) (key : String) : Bool :=
  (members.get? key).isSome

/-- Collects members given in any order; of two with one key the later wins. -/
def ofList (members : List (String × Value)) : Members :=
  members.foldl (fun collected member => insert member.1 member.2 collected) []

end Members

namespace Value

mutual

/-- Equality of structure, with doubles compared as numbers. -/
def beq : Value → Value → Bool
  | .null, .null => true
  | .bool a, .bool b => a == b
  | .number a, .number b => a == b
  | .string a, .string b => a == b
  | .array a, .array b => beqItems a b
  | .object a, .object b => beqMembers a b
  | _, _ => false

def beqItems : List Value → List Value → Bool
  | [], [] => true
  | a :: as, b :: bs => beq a b && beqItems as bs
  | _, _ => false

def beqMembers : List (String × Value) → List (String × Value) → Bool
  | [], [] => true
  | (k, a) :: as, (l, b) :: bs => k == l && beq a b && beqMembers as bs
  | _, _ => false

end

instance : BEq Value := ⟨beq⟩

instance : Inhabited Value := ⟨.null⟩

def int? (n : Int) : Option Value :=
  (Number.ofInt? n).map .number

def asString? : Value → Option String
  | .string s => some s
  | _ => none

end Value

end ScriptGraph.Json
