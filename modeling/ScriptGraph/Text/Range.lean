/-! # Ranges of characters

Classes of characters beyond ASCII are given as lists of closed ranges of code points.
-/

namespace ScriptGraph.Text

/-- Whether one of the ranges holds the character. -/
def inRanges (ranges : List (Nat × Nat)) (c : Char) : Bool :=
  ranges.any fun range => range.1 ≤ c.toNat && c.toNat ≤ range.2

end ScriptGraph.Text
