import ScriptGraph.Decimal.Shortest

/-! # Written doubles

Two ways to write the shortest decimal of a double: in plain positional notation whatever its size,
and with an exponent once the number gets very large or very small.
-/

namespace ScriptGraph.Decimal

/-- Digits in base ten. -/
def digitText (n : Nat) : String :=
  toString n

def zeros (n : Nat) : String :=
  String.ofList (List.replicate n '0')

/-- Digits with a point after the first `n` of them. -/
def pointAfter (n : Nat) (digits : String) : String :=
  let cs := digits.toList
  String.ofList (cs.take n) ++ "." ++ String.ofList (cs.drop n)

/-- Positional notation; whole numbers have no point. -/
def Digits.plain (d : Digits) : String :=
  let digits := digitText d.digits
  let point := (digits.length : Int) + d.exponent
  if 0 ≤ d.exponent then digits ++ zeros d.exponent.toNat
  else if 0 < point then pointAfter point.toNat digits
  else "0." ++ zeros (-point).toNat ++ digits

/-- Positional notation with at least one digit after the point from `1e-5` to below `1e16`, and
scientific notation with a signed exponent elsewhere. -/
def Digits.scientific (d : Digits) : String :=
  let digits := digitText d.digits
  let point := (digits.length : Int) + d.exponent
  if 0 ≤ d.exponent ∧ point ≤ 16 then digits ++ zeros d.exponent.toNat ++ ".0"
  else if 0 < point ∧ point ≤ 16 then pointAfter point.toNat digits
  else if -5 < point ∧ point ≤ 0 then "0." ++ zeros (-point).toNat ++ digits
  else
    let mantissa := if digits.length = 1 then digits else pointAfter 1 digits
    let exponent := point - 1
    let sign := if exponent < 0 then "-" else "+"
    mantissa ++ "e" ++ sign ++ digitText exponent.natAbs

/-- Whether the sign bit is set. -/
def isNegative (x : Float) : Bool :=
  (Binary.ofFloat x).negative

def signed (x : Float) (unsigned : String) : String :=
  if isNegative x then "-" ++ unsigned else unsigned

/-- Positional notation of any double. Of two decimals that are equally near, the one further from
zero is written. -/
def plain (x : Float) : String :=
  if x.isNaN then "NaN"
  else signed x <|
    if !x.isFinite then "inf"
    else if x == 0 then "0"
    else (ofFloat x .away).plain

/-- The notation of a finite double in data, which always shows that the number is no integer. Of
two decimals that are equally near, the one with an even last digit is written. -/
def scientific (x : Float) : String :=
  signed x (if x == 0 then "0.0" else (ofFloat x .even).scientific)

end ScriptGraph.Decimal
