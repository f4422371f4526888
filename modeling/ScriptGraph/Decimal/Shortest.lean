import ScriptGraph.Decimal.Binary

/-! # Shortest decimals

The decimal that stands for a double is the one with the fewest digits among those that read back
as that double, and of these the nearest. Two can be equally near, and which of them is taken is a
matter of the notation. The decimal is found in exact arithmetic: on each grid of powers of ten,
from coarse to fine, the two neighbours of the double are tried against the interval of reals that
round to it.
-/

namespace ScriptGraph.Decimal

/-- The number `digits * 10 ^ exponent`. -/
structure Digits where
  digits : Nat
  exponent : Int
  deriving DecidableEq, Repr

/-- Which of two neighbours is taken for a value in the middle between them. -/
inductive Tie where
  /-- The even one. -/
  | even
  /-- The one that is further from zero. -/
  | away
  deriving DecidableEq

/-- A fraction of naturals with the ends of an interval around it, all over one denominator. -/
structure Window where
  low : Nat
  value : Nat
  high : Nat
  denominator : Nat
  /-- Whether the ends belong to the interval. -/
  closed : Bool

namespace Window

/-- The reals that round to `significand * 2 ^ exponent`, in quarters of the last place. Below a
power of two the gap is half as wide. -/
def ofBinary (significand : Nat) (exponent : Int) : Window :=
  let below := if significand = Binary.leadingBit ∧ exponent > Binary.minExponent then 1 else 2
  let scale := exponent - 2
  let up := Nat.pow 2 scale.toNat
  { low := (4 * significand - below) * up
    value := 4 * significand * up
    high := (4 * significand + 2) * up
    denominator := Nat.pow 2 (-scale).toNat
    closed := significand % 2 = 0 }

/-- The same window measured in steps of `10 ^ step`. -/
def inSteps (w : Window) (step : Int) : Window :=
  let up := Nat.pow 10 (-step).toNat
  { w with
    low := w.low * up, value := w.value * up, high := w.high * up
    denominator := w.denominator * Nat.pow 10 step.toNat }

/-- Whether the window holds a natural number. -/
def holds (w : Window) (n : Nat) : Bool :=
  let scaled := n * w.denominator
  if w.closed then w.low ≤ scaled && scaled ≤ w.high else w.low < scaled && scaled < w.high

/-- The positive natural number in the window that is nearest to the value. -/
def nearest? (w : Window) (tie : Tie) : Option Nat :=
  let below := w.value / w.denominator
  let rest := w.value % w.denominator
  let lower := 0 < below && w.holds below
  let upper := w.holds (below + 1)
  if lower && upper then
    let staysAtTie := tie = .even && below % 2 = 0
    if 2 * rest < w.denominator || (2 * rest = w.denominator && staysAtTie) then some below
    else some (below + 1)
  else if lower then some below
  else if upper then some (below + 1)
  else none

end Window

/-- Tries the grids `10 ^ step`, `10 ^ (step - 1)`, …, as many as `tries`. -/
def search (w : Window) (tie : Tie) : (tries : Nat) → (step : Int) → Option Digits
  | 0, _ => none
  | tries + 1, step =>
    match (w.inSteps step).nearest? tie with
    | some digits => some ⟨digits, step⟩
    | none => search w tie tries (step - 1)

/-- The shortest decimal of a positive fraction. Seventeen digits always suffice, and the first
grid is at most two places too coarse. -/
def shortest (significand : Nat) (exponent : Int) (tie : Tie) : Digits :=
  let magnitude := ((significand.log2 : Int) + exponent) * 30103 / 100000
  let window := Window.ofBinary significand exponent
  (search window tie 20 (magnitude + 1)).getD ⟨significand, exponent⟩

/-- The shortest decimal of the absolute value of a finite double other than zero. -/
def ofFloat (x : Float) (tie : Tie) : Digits :=
  let b := Binary.ofFloat x
  shortest b.significand b.exponent tie

end ScriptGraph.Decimal
