import ScriptGraph.Decimal.Binary

/-! # Random draws

A run draws words of 64 bits from a stream, one after the other. What is made of a word is a number
from zero up to one, or a place in a list. The exact values are not those of any generator of random
numbers.
-/

namespace ScriptGraph.Script

/-- The words by the order in which they are drawn. -/
abbrev Draws := (position : Nat) → UInt64

namespace Draws

/-- Spreads the bits of a word. -/
def mix (word : UInt64) : UInt64 :=
  let word := (word ^^^ (word >>> 30)) * 0xBF58476D1CE4E5B9
  let word := (word ^^^ (word >>> 27)) * 0x94D049BB133111EB
  word ^^^ (word >>> 31)

/-- The stream that belongs to a seed. -/
def ofSeed (seed : UInt64) : Draws := fun position =>
  mix (seed + UInt64.ofNat (position + 1) * 0x9E3779B97F4A7C15)

end Draws

/-- The number from zero up to one whose first 53 binary places are those of the word. -/
def unitOfWord (word : UInt64) : Float :=
  Decimal.Binary.toFloat ⟨false, word.toNat / 0x800, -53⟩

end ScriptGraph.Script
