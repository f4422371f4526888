/-! # Names in ASCII

A label with characters beyond ASCII is written with its ASCII characters first and then, behind a
hyphen, a number for each other character in the order of their code points. A number tells how far
on the character is, counted over all places of all code points, and has digits in base 36 whose
weights adapt to the numbers before it.
-/

namespace ScriptGraph.Http.Domain

namespace Punycode

def base : Nat := 36

/-- Digits are letters, and then the decimal digits. -/
def digit (n : Nat) : Char :=
  if n < 26 then Char.ofNat (n + 'a'.toNat) else Char.ofNat (n - 26 + '0'.toNat)

def digitValue? (c : Char) : Option Nat :=
  if c.isLower then some (c.toNat - 'a'.toNat)
  else if c.isUpper then some (c.toNat - 'A'.toNat)
  else if c.isDigit then some (c.toNat - '0'.toNat + 26)
  else none

/-- The least value that a digit has which is not the last one. Such digits lie `base` apart. -/
def threshold (position bias : Nat) : Nat :=
  if position ≤ bias then 1 else if bias + 26 ≤ position then 26 else position - bias

theorem one_le_threshold (position bias : Nat) : 1 ≤ threshold position bias := by
  unfold threshold
  split
  · omega
  · split <;> omega

theorem threshold_le (position bias : Nat) : threshold position bias ≤ 26 := by
  unfold threshold
  split
  · omega
  · split <;> omega

/-- How often a number is divided by 35 until it is at most 455, and what it is then. -/
def settle (n : Nat) : Nat × Nat :=
  if 455 < n then
    let (times, rest) := settle (n / 35)
    (times + 1, rest)
  else (0, n)
termination_by n
decreasing_by omega

/-- The bias for the number after `delta`, with which so many characters have been placed. -/
def adapt (delta placed : Nat) (first : Bool) : Nat :=
  let halved := if first then delta / 700 else delta / 2
  let (times, rest) := settle (halved + halved / placed)
  times * base + base * rest / (rest + 38)

/-! ### Writing -/

/-- The digits of a number, least first. -/
def writeNumber (bias position n : Nat) : List Char :=
  let t := threshold position bias
  if n < t then [digit n]
  else digit (t + (n - t) % (base - t)) :: writeNumber bias (position + base) ((n - t) / (base - t))
termination_by n
decreasing_by
  have low := one_le_threshold position bias
  have high := threshold_le position bias
  have := Nat.div_le_self (n - threshold position bias) (base - threshold position bias)
  omega

/-- What has been written: the number under way, the bias, and how many characters are placed. -/
structure Progress where
  text : List Char := []
  delta : Nat := 0
  bias : Nat := 72
  placed : Nat

/-- Passes a character while the characters with a code point are written. -/
def pass (basic codePoint : Nat) (p : Progress) (c : Char) : Progress :=
  if c.toNat < codePoint then { p with delta := p.delta + 1 }
  else if c.toNat = codePoint then {
    text := p.text ++ writeNumber p.bias base p.delta
    delta := 0
    bias := adapt p.delta (p.placed + 1) (p.placed = basic)
    placed := p.placed + 1 }
  else p

/-- Writes the characters of the code points given, which lie from `start` on. -/
def writeFrom (cs : List Char) (basic : Nat) :
    (codePoints : List Nat) → (start : Nat) → Progress → List Char
  | [], _, p => p.text
  | n :: rest, start, p =>
    let p := { p with delta := p.delta + (n - start) * (p.placed + 1) }
    let p := cs.foldl (pass basic n) p
    writeFrom cs basic rest (n + 1) { p with delta := p.delta + 1 }

/-- The least code point beyond ASCII. -/
def firstBeyond : Nat := 128

/-- A label in ASCII. -/
def encode (cs : List Char) : List Char :=
  let (basic, others) := cs.partition (·.val < 128)
  let codePoints := ((others.map (·.toNat)).mergeSort (· ≤ ·)).eraseReps
  let lead := if basic.isEmpty then [] else basic ++ ['-']
  lead ++ writeFrom cs basic.length codePoints firstBeyond { placed := basic.length }

/-! ### Reading -/

/-- The values and weights of a number are below this. -/
def wordLimit : Nat := 0x100000000

/-- Reads a number, and adds it to one. -/
def readNumber? (bias : Nat) : (position weight sum : Nat) → List Char → Option (Nat × List Char)
  | _, _, _, [] => none
  | position, weight, sum, c :: rest => do
    let value ← digitValue? c
    let sum := sum + value * weight
    if wordLimit ≤ sum then none
    else if value < threshold position bias then return (sum, rest)
    else
      let weight := weight * (base - threshold position bias)
      if wordLimit ≤ weight then none
      else readNumber? bias (position + base) weight sum rest

/-- Reading a number takes at least one digit. -/
theorem length_of_readNumber? {bias position weight sum n : Nat} {cs rest : List Char}
    (h : readNumber? bias position weight sum cs = some (n, rest)) : rest.length < cs.length := by
  induction cs generalizing position weight sum with
  | nil => simp [readNumber?] at h
  | cons c cs ih =>
    rw [readNumber?] at h
    cases hv : digitValue? c with
    | none => simp [hv] at h
    | some value =>
      simp only [hv, Option.bind_eq_bind, Option.bind_some] at h
      split at h
      · simp at h
      · split at h
        · cases h
          simp
        · split at h
          · simp at h
          · exact Nat.lt_succ_of_lt (ih h)

/-- Places the characters that numbers tell; `place` is where the search goes on. -/
def readFrom? (bias codePoint place : Nat) (placed : List Char) (cs : List Char) :
    Option (List Char) :=
  match cs with
  | [] => some placed
  | c :: more =>
    match _h : readNumber? bias base 1 place (c :: more) with
    | none => none
    | some (n, rest) =>
      let size := placed.length + 1
      let codePoint := codePoint + n / size
      if codePoint.isValidChar then
        readFrom? (adapt (n - place) size (place = 0)) codePoint (n % size + 1)
          (placed.insertIdx (n % size) (.ofNat codePoint)) rest
      else none
termination_by cs.length
decreasing_by exact length_of_readNumber? _h

/-- The label that ASCII characters stand for. What is before the last hyphen stands for itself. -/
def decode? (cs : List Char) : Option (List Char) :=
  let tail := (cs.reverse.takeWhile (· ≠ '-')).reverse
  let lead := cs.take (cs.length - tail.length)
  match lead.dropLast with
  | [] => readFrom? 72 firstBeyond 0 [] cs
  | basic => readFrom? 72 firstBeyond 0 basic tail

end Punycode

end ScriptGraph.Http.Domain
