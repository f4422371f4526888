import ScriptGraph.Text.Hexadecimal

/-! # Addresses of four bytes

Such an address is written as up to four numbers between dots. The last number stands for all bytes
that the others do not, and each is decimal, or octal after `0`, or hexadecimal after `0x`.
-/

namespace ScriptGraph.Http

structure Ipv4 where
  value : UInt32
  deriving DecidableEq

namespace Ipv4

/-- The number that a part stands for, if it is one. -/
def number? (part : List Char) : Option Nat :=
  let read (base : Nat) (digits : List Char) : Option Nat :=
    if digits.all fun c => (Text.hexValue? c).any (· < base) then some (Text.numberIn base digits)
    else none
  match part with
  | [] => none
  | '0' :: 'x' :: digits | '0' :: 'X' :: digits => read 16 digits
  | '0' :: c :: digits => read 8 (c :: digits)
  | digits => read 10 digits

/-- The parts between dots. A dot at the end begins no part. -/
def parts (cs : List Char) : List (List Char) :=
  let parts := cs.splitOnP (· = '.')
  if parts.length ≠ 1 ∧ parts.getLast? = some [] then parts.dropLast else parts

/-- Whether a name must be such an address, since it ends in a number. -/
def isMeant (cs : List Char) : Bool :=
  (parts cs).getLast?.any fun part =>
    (number? part).isSome || !part.isEmpty && part.all Char.isDigit

/-- Puts bytes in front of the number that stands for the rest. -/
def assemble? : (size : Nat) → List Nat → Option Nat
  | _, [] => none
  | size, [n] => if n < size then some n else none
  | size, n :: rest => do
    let low ← assemble? (size / 256) rest
    if n < 256 then return n * (size / 256) + low else none

def ofChars? (cs : List Char) : Option Ipv4 := do
  let numbers ← (parts cs).mapM number?
  if 4 < numbers.length then none
  else return ⟨.ofNat (← assemble? 0x100000000 numbers)⟩

/-- The four bytes in decimal. -/
def text (a : Ipv4) : String :=
  let n := a.value.toNat
  ".".intercalate
    ([n / 0x1000000, n / 0x10000 % 256, n / 256 % 256, n % 256].map fun byte => toString byte)

end Ipv4

end ScriptGraph.Http
