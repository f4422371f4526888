/-! # Base64

The standard alphabet with mandatory padding. Three bytes are written as four symbols. Reading
refuses a symbol outside of the alphabet, padding that does not complete a group, and a last symbol
with bits that no byte takes.
-/

namespace ScriptGraph.Text.Base64

/-- Why a text is no Base64. -/
inductive Fault where
  | invalidSymbol (symbol : UInt8) (offset : Nat)
  | invalidLength (length : Nat)
  | invalidLastSymbol (symbol : UInt8) (offset : Nat)
  | invalidPadding
  deriving DecidableEq

def Fault.message : Fault → String
  | .invalidSymbol symbol offset => s!"Invalid symbol {symbol}, offset {offset}."
  | .invalidLength length => s!"Invalid input length: {length}"
  | .invalidLastSymbol symbol offset => s!"Invalid last symbol {symbol}, offset {offset}."
  | .invalidPadding => "Invalid padding"

/-- The symbol of a six bit number. -/
def symbol (n : Nat) : Char :=
  if n < 26 then Char.ofNat (n + 65)
  else if n < 52 then Char.ofNat (n + 71)
  else if n < 62 then Char.ofNat (n - 4)
  else if n = 62 then '+'
  else '/'

/-- The six bit number of a symbol. -/
def value? (b : UInt8) : Option Nat :=
  let n := b.toNat
  if 65 ≤ n ∧ n ≤ 90 then some (n - 65)
  else if 97 ≤ n ∧ n ≤ 122 then some (n - 71)
  else if 48 ≤ n ∧ n ≤ 57 then some (n + 4)
  else if n = 43 then some 62
  else if n = 47 then some 63
  else none

def pad : UInt8 := 61

/-- The symbols of a sequence of bytes, padded to whole groups of four. -/
def encodeChars : List UInt8 → List Char
  | [] => []
  | [a] =>
    let n := a.toNat * 16
    [symbol (n / 64), symbol (n % 64), '=', '=']
  | [a, b] =>
    let n := (a.toNat * 256 + b.toNat) * 4
    [symbol (n / 4096), symbol (n / 64 % 64), symbol (n % 64), '=']
  | a :: b :: c :: rest =>
    let n := (a.toNat * 256 + b.toNat) * 256 + c.toNat
    symbol (n / 262144) :: symbol (n / 4096 % 64) :: symbol (n / 64 % 64) :: symbol (n % 64) ::
      encodeChars rest

def encode (bytes : List UInt8) : String :=
  String.ofList (encodeChars bytes)

/-- The value of the symbol at an offset. -/
def valueAt (b : UInt8) (offset : Nat) : Except Fault Nat :=
  match value? b with
  | some n => .ok n
  | none => .error (.invalidSymbol b offset)

/-- The values of the last group and the number of its padding symbols. The group began at `base`;
`values` are those before `offset`, and `firstPad` is where the padding began. -/
def lastValues (base : Nat) : (offset : Nat) → (values : List Nat) → (firstPad : Option Nat) →
    (pads : Nat) → List UInt8 → Except Fault (List Nat × Nat)
  | _, values, _, pads, [] => .ok (values, pads)
  | offset, values, firstPad, pads, b :: rest =>
    if b = pad then
      if offset < base + 2 then .error (.invalidSymbol b offset)
      else lastValues base (offset + 1) values (firstPad.or (some offset)) (pads + 1) rest
    else match firstPad with
      | some first => .error (.invalidSymbol pad first)
      | none => do
        let n ← valueAt b offset
        lastValues base (offset + 1) (values ++ [n]) none pads rest

/-- The bytes of the last group, of at most four symbols, which begins at `base`. -/
def decodeLast (base : Nat) (group : List UInt8) : Except Fault (List UInt8) := do
  let (values, pads) ← lastValues base base [] none 0 group
  let lastSymbol := group[values.length - 1]?.getD 0
  let lastFault := Fault.invalidLastSymbol lastSymbol (base + values.length - 1)
  match values with
  | [] => throw (.invalidLength base)
  | [_] => throw (.invalidLength (base + 1))
  | [a, b] =>
    if pads ≠ 2 then throw .invalidPadding
    if b % 16 ≠ 0 then throw lastFault
    return [UInt8.ofNat (a * 4 + b / 16)]
  | [a, b, c] =>
    if pads ≠ 1 then throw .invalidPadding
    if c % 4 ≠ 0 then throw lastFault
    return [UInt8.ofNat (a * 4 + b / 16), UInt8.ofNat (b % 16 * 16 + c / 4)]
  | a :: b :: c :: d :: _ =>
    return [UInt8.ofNat (a * 4 + b / 16), UInt8.ofNat (b % 16 * 16 + c / 4),
      UInt8.ofNat (c % 4 * 64 + d)]

/-- Decodes whole groups while something follows them, then the last group. -/
def decodeFrom (offset : Nat) : List UInt8 → Except Fault (List UInt8)
  | a :: b :: c :: d :: next :: rest => do
    let va ← valueAt a offset
    let vb ← valueAt b (offset + 1)
    let vc ← valueAt c (offset + 2)
    let vd ← valueAt d (offset + 3)
    let bytes ← decodeFrom (offset + 4) (next :: rest)
    return UInt8.ofNat (va * 4 + vb / 16) :: UInt8.ofNat (vb % 16 * 16 + vc / 4) ::
      UInt8.ofNat (vc % 4 * 64 + vd) :: bytes
  | group => decodeLast offset group

/-- The bytes that the symbols stand for. A single symbol left over at the end is examined first. -/
def decode (symbols : List UInt8) : Except Fault (List UInt8) :=
  match symbols.getLast? with
  | some last =>
    if symbols.length % 4 = 1 ∧ last ≠ pad ∧ value? last = none then
      .error (.invalidSymbol last (symbols.length - 1))
    else decodeFrom 0 symbols
  | none => .ok []

end ScriptGraph.Text.Base64
