import ScriptGraph.Text.Hexadecimal

/-! # Addresses of eight groups

Such an address is written as eight groups of up to four hexadecimal digits between colons. Two
colons stand for as many groups of zero as are missing, and the last two groups may be written as
four decimal bytes between dots.
-/

namespace ScriptGraph.Http

structure Ipv6 where
  groups : List UInt16
  deriving DecidableEq

namespace Ipv6

def groupCount : Nat := 8

/-- Reads a decimal byte without leading zeros. -/
def byte? (cs : List Char) : Option Nat :=
  let n := Text.numberIn 10 cs
  if cs.isEmpty || !cs.all Char.isDigit || 3 < cs.length || 255 < n ||
      (cs.head? = some '0' && cs.length ≠ 1) then none
  else some n

/-- The two groups that four bytes stand for. -/
def bytePair? (cs : List Char) : Option (List UInt16) := do
  match ← (cs.splitOnP (· = '.')).mapM byte? with
  | [a, b, c, d] => return [.ofNat (a * 256 + b), .ofNat (c * 256 + d)]
  | _ => none

def group? (cs : List Char) : Option UInt16 :=
  if cs.isEmpty || 4 < cs.length || !cs.all Text.isHexDigit then none
  else some (.ofNat (Text.numberIn 16 cs))

/-- The groups of a sequence of pieces. Bytes can stand in the last piece alone. -/
def groups? : List (List Char) → Option (List UInt16)
  | [] => some []
  | [piece] => if piece.contains '.' then bytePair? piece else (group? piece).map ([·])
  | piece :: rest => do return (← group? piece) :: (← groups? rest)

/-- What comes before two colons, and what comes after them, if they occur. -/
def splitAtGap : List Char → List Char × Option (List Char)
  | [] => ([], none)
  | ':' :: ':' :: rest => ([], some rest)
  | c :: rest =>
    let (before, after) := splitAtGap rest
    (c :: before, after)

/-- The groups of a sequence between colons, which may be empty. -/
def sequence? (cs : List Char) : Option (List UInt16) :=
  if cs.isEmpty then some [] else groups? (cs.splitOnP (· = ':'))

def ofChars? (cs : List Char) : Option Ipv6 := do
  match splitAtGap cs with
  | (all, none) =>
    let groups ← sequence? all
    if groups.length = groupCount then return ⟨groups⟩ else none
  | (before, some after) =>
    if before.contains '.' then none
    else
      let first ← sequence? before
      let last ← sequence? after
      let missing := groupCount - (first.length + last.length)
      if missing = 0 then none else return ⟨first ++ List.replicate missing 0 ++ last⟩

/-! ### Writing -/

/-- How many groups of zero stand at the front. -/
def zeros (groups : List UInt16) : Nat :=
  (groups.takeWhile (· = 0)).length

/-- The longest run of zeros: how long it is, and how many groups stand before it. Of several the
first counts. -/
def longestZeros : List UInt16 → Nat × Nat
  | [] => (0, 0)
  | g :: rest =>
    let (length, before) := longestZeros rest
    if length ≤ zeros (g :: rest) then (zeros (g :: rest), 0) else (length, before + 1)

def joined (groups : List UInt16) : String :=
  ":".intercalate (groups.map fun g => String.ofList (Text.hexDigits g.toNat))

/-- The groups, without the longest run of two or more zeros. -/
def text (a : Ipv6) : String :=
  let (length, before) := longestZeros a.groups
  if length < 2 then joined a.groups
  else joined (a.groups.take before) ++ "::" ++ joined (a.groups.drop (before + length))

end Ipv6

end ScriptGraph.Http
