import ScriptGraph.Decimal.Reader
import ScriptGraph.Text.Blank

/-! # Leading numbers

A number field may hold a decimal followed by anything, such as a unit. The text is cut behind its
leading run of characters that decimals are made of, whatever their order, and what is before the
cut is read.
-/

namespace ScriptGraph.Decimal

def isSign (c : Char) : Bool :=
  c = '-' || c = '+'

/-- A character that a decimal without exponent has behind its sign. -/
def isNumeric (c : Char) : Bool :=
  c.isDigit || c = '.'

/-- A decimal without exponent may have the character at the offset; a sign only at its front. -/
def isNumericAt (offset : Nat) (c : Char) : Bool :=
  isNumeric c || offset = 0 && isSign c

/-- The characters with the byte offsets at which they begin. -/
def atOffsets (offset : Nat) : List Char → List (Nat × Char)
  | [] => []
  | c :: cs => (offset, c) :: atOffsets (offset + c.utf8Size) cs

/-- The byte offset behind the leading characters that a decimal without exponent may have, if there
are any. -/
def numericEnd? (text : String) : Option Nat :=
  let run := (atOffsets 0 text.toList).takeWhile fun (offset, c) => isNumericAt offset c
  run.getLast?.map fun (offset, c) => offset + c.utf8Size

/-- The text before a byte offset. The offset must not be inside of a character. -/
def before? (text : String) (offset : Nat) : Option String :=
  if h : String.Pos.Raw.isValid text ⟨offset⟩ then
    some (text.sliceTo (text.pos ⟨offset⟩ (String.Pos.Raw.isValid_eq_true_iff.mp h))).copy
  else none

/-- The number that a trimmed text is, or else the one it starts with. -/
def leading? (text : String) : Option Float :=
  let trimmed := Text.trim text
  match read? trimmed with
  | some x => some x
  | none => do
    let stop ← numericEnd? trimmed
    read? (← before? trimmed stop)

end ScriptGraph.Decimal
