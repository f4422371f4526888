/-! # Reading decimals

A decimal is an optional sign and either digits with an optional point and exponent, or the name of
an infinity or of no number in any letter case. It is read as the nearest double.
-/

namespace ScriptGraph.Decimal

/-- The natural number that the digits stand for. -/
def natOfDigits (digits : List Char) : Nat :=
  digits.foldl (fun n c => n * 10 + (c.toNat - '0'.toNat)) 0

/-- Splits off the leading digits. -/
def spanDigits (cs : List Char) : List Char × List Char :=
  cs.span Char.isDigit

/-- Splits off a sign and tells whether it is a minus. -/
def takeSign : List Char → Bool × List Char
  | '-' :: rest => (true, rest)
  | '+' :: rest => (false, rest)
  | cs => (false, cs)

/-- The exponent that ends a decimal, or zero where there is none. -/
def exponent? : List Char → Option Int
  | [] => some 0
  | mark :: rest =>
    if mark = 'e' ∨ mark = 'E' then
      let (negative, digits) := takeSign rest
      if digits.isEmpty || !digits.all Char.isDigit then none
      else
        let n : Int := natOfDigits digits
        some (if negative then -n else n)
    else none

/-- The double nearest to `digits * 10 ^ exponent`. Numbers outside of the range of doubles are
recognised by their size alone. -/
def nearest (digits : Nat) (exponent : Int) : Float :=
  if digits = 0 then 0
  else
    let magnitude := (digits.log2 : Int) * 30103 / 100000 + exponent
    if magnitude > 310 then 1.0 / 0.0
    else if magnitude < -330 then 0
    else Float.ofScientific digits (exponent < 0) exponent.natAbs

/-- An unsigned decimal of digits. -/
def unsigned? (cs : List Char) : Option Float :=
  let (whole, rest) := spanDigits cs
  let (fraction, rest) :=
    match rest with
    | '.' :: rest => spanDigits rest
    | rest => ([], rest)
  if whole.isEmpty && fraction.isEmpty then none
  else (exponent? rest).map fun exponent =>
    nearest (natOfDigits (whole ++ fraction)) (exponent - fraction.length)

/-- An unsigned decimal or the name of a special double. -/
def magnitude? (cs : List Char) : Option Float :=
  let name := String.ofList (cs.map Char.toLower)
  if name = "inf" ∨ name = "infinity" then some (1.0 / 0.0)
  else if name = "nan" then some (0.0 / 0.0)
  else unsigned? cs

/-- The double that a text stands for, without any blanks around it. -/
def read? (text : String) : Option Float :=
  let (negative, rest) := takeSign text.toList
  (magnitude? rest).map fun x => if negative then -x else x

end ScriptGraph.Decimal
