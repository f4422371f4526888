import ScriptGraph.Text.CombiningClass
import ScriptGraph.Text.Decomposition

/-! # The composed normal form

Texts that look alike can be written in several ways. In the composed normal form marks stand in the
order of their classes, and a character and its marks are one character where there is one.
-/

namespace ScriptGraph.Text

/-- How deep parts can be nested in a character. -/
def maxNesting : Nat := 4

/-- Takes characters apart, so many levels down. -/
def takeApart : (levels : Nat) → List Char → List Char
  | 0, cs => cs
  | levels + 1, cs => takeApart levels (cs.flatMap parts)

/-- Puts a mark behind the marks of lower classes. -/
def insertMark (c : Char) : List Char → List Char
  | [] => [c]
  | d :: rest =>
    if combiningClass d ≠ 0 ∧ combiningClass d < combiningClass c then d :: insertMark c rest
    else c :: d :: rest

/-- Puts the marks of each base in the order of their classes. -/
def orderMarks (cs : List Char) : List Char :=
  cs.foldr insertMark []

/-- Puts a base together with marks that follow it. Of marks with one class only the first can be
put together with the base; `kept` holds those that could not be, the last one first. -/
def composeFrom (base : Char) (kept : List Char) : List Char → List Char
  | [] => base :: kept.reverse
  | c :: rest =>
    let isHidden := kept.head?.any fun mark => combiningClass c ≤ combiningClass mark
    match if isHidden then none else composite? base c with
    | some whole => composeFrom whole kept rest
    | none =>
      if combiningClass c = 0 then base :: kept.reverse ++ composeFrom c [] rest
      else composeFrom base (c :: kept) rest

/-- Puts characters together that are parts of one. -/
def compose : List Char → List Char
  | [] => []
  | c :: rest => if combiningClass c = 0 then composeFrom c [] rest else c :: compose rest

/-- The composed normal form. -/
def normalize (cs : List Char) : List Char :=
  if cs.all (·.val < 128) then cs else compose (orderMarks (takeApart maxNesting cs))

end ScriptGraph.Text
