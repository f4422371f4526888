/-! # Doubles as binary fractions

A finite double is a sign, a natural significand and a power of two. Questions about its integral
part are answered there in exact arithmetic.
-/

namespace ScriptGraph.Decimal

/-- The number `± significand * 2 ^ exponent`. -/
structure Binary where
  negative : Bool
  significand : Nat
  exponent : Int
  deriving DecidableEq, Repr

namespace Binary

/-- The exponent of the least positive double. -/
def minExponent : Int := -1074

/-- The bit of a significand that the pattern of a double leaves out. -/
def leadingBit : Nat := 0x10000000000000

/-- The bit of the pattern that is set for a negative double. -/
def signBit : Nat := 0x8000000000000000

/-- The fraction that a finite double stands for. -/
def ofFloat (x : Float) : Binary :=
  let bits : Nat := x.toBits.toNat
  let fraction : Nat := bits % leadingBit
  let field : Nat := bits / leadingBit % 0x800
  let negative : Bool := bits / signBit = 1
  if field = 0 then ⟨negative, fraction, minExponent⟩
  else ⟨negative, fraction + leadingBit, (field : Int) - 1075⟩

/-- Whether the number has no fractional part. -/
def isIntegral (b : Binary) : Bool :=
  0 ≤ b.exponent || b.significand % Nat.pow 2 (-b.exponent).toNat = 0

/-- The absolute value without its fractional part. -/
def floorAbs (b : Binary) : Nat :=
  if 0 ≤ b.exponent then b.significand * Nat.pow 2 b.exponent.toNat
  else b.significand / Nat.pow 2 (-b.exponent).toNat

/-- The number without its fractional part. -/
def truncate (b : Binary) : Int :=
  if b.negative then -(b.floorAbs : Int) else b.floorAbs

/-- The double of a fraction whose significand has at most 53 bits and whose exponent is at least
that of the least positive double. -/
def toFloat (b : Binary) : Float :=
  let sign : Nat := if b.negative then signBit else 0
  if b.significand = 0 then Float.ofBits (UInt64.ofNat sign)
  else
    let spare := 52 - b.significand.log2
    let lift := min spare (b.exponent - minExponent).toNat
    let significand := b.significand * Nat.pow 2 lift
    let exponent := b.exponent - lift
    let field := if significand < leadingBit then 0 else (exponent + 1075).toNat
    Float.ofBits (UInt64.ofNat (sign + field * leadingBit + significand % leadingBit))

end Binary

/-- The integer that a finite double without a fractional part stands for. -/
def integer? (x : Float) : Option Int :=
  let b := Binary.ofFloat x
  if x.isFinite && b.isIntegral then some b.truncate else none

/-- The integer below a finite double's absolute value, with the sign of the double. -/
def truncate? (x : Float) : Option Int :=
  if x.isFinite then some (Binary.ofFloat x).truncate else none

/-- The greatest integral double that is no greater; a double that is not finite stays. -/
def floor (x : Float) : Float :=
  let b := Binary.ofFloat x
  if !x.isFinite || b.isIntegral then x
  else
    let down : Nat := if b.negative then b.floorAbs + 1 else b.floorAbs
    Binary.toFloat ⟨b.negative, down, 0⟩

/-- The natural number below a double, with everything below zero at zero and everything above the
limit at the limit. What is no number counts as zero. -/
def clampToNat (limit : Nat) (x : Float) : Nat :=
  if x.isNaN || x < 0 then 0
  else match truncate? x with
    | some n => min n.toNat limit
    | none => limit

/-- The exact remainder of a division that rounds toward zero; it has the sign of the dividend. -/
def remainder (x y : Float) : Float :=
  if !x.isFinite || y.isNaN || y == 0 then 0.0 / 0.0
  else if !y.isFinite then x
  else
    let a := Binary.ofFloat x
    let b := Binary.ofFloat y
    let exponent := min a.exponent b.exponent
    let dividend := a.significand * Nat.pow 2 (a.exponent - exponent).toNat
    let divisor := b.significand * Nat.pow 2 (b.exponent - exponent).toNat
    Binary.toFloat ⟨a.negative, dividend % divisor, exponent⟩

end ScriptGraph.Decimal
