/-! # Similarity of texts

The Jaro similarity of two texts: a number from zero to one that grows with the characters that the
texts have in common at nearby positions, and shrinks with those of them that stand in another
order.
-/

namespace ScriptGraph.Text

/-- Marks the first unmarked occurrence of a character at a position from `low` to `high`. -/
def markFirst? (c : Char) (low high : Nat) :
    (position : Nat) → List (Char × Bool) → Option (List (Char × Bool))
  | _, [] => none
  | position, (d, marked) :: rest =>
    if low ≤ position && position ≤ high && c = d && !marked then some ((d, true) :: rest)
    else (markFirst? c low high (position + 1) rest).map ((d, marked) :: ·)

/-- Finds a partner for each character, at most `reach` positions away. The result holds the
characters with a partner, and the partners marked. -/
def pairUp (reach : Nat) :
    (position : Nat) → List Char → List (Char × Bool) → List Char × List (Char × Bool)
  | _, [], partners => ([], partners)
  | position, c :: cs, partners =>
    match markFirst? c (position - reach) (position + reach) 0 partners with
    | none => pairUp reach (position + 1) cs partners
    | some partners =>
      let (paired, partners) := pairUp reach (position + 1) cs partners
      (c :: paired, partners)

/-- The share of the first text and that of the second which have a partner, and the share of the
partners that stand in the same order: the mean of the three. -/
def similarity (a b : String) : Float :=
  let first := a.toList
  let second := b.toList
  let reach := max first.length second.length / 2 - 1
  let (paired, partners) := pairUp reach 0 first (second.map fun c => (c, false))
  let partners := (partners.filter (·.2)).map (·.1)
  let crossed := (paired.zip partners).countP (fun (c, d) => c ≠ d) / 2
  let share (part whole : Nat) : Float := Float.ofNat part / Float.ofNat whole
  if first.isEmpty && second.isEmpty then 1
  else if paired.isEmpty then 0
  else
    (share paired.length first.length + share paired.length second.length +
      share (paired.length - crossed) paired.length) / 3

/-- The names that resemble a text, the one that does most at the end. -/
def similarNames (text : String) (names : List String) : List String :=
  let rated := (names.map fun name => (similarity text name, name)).filter (0.7 < ·.1)
  (rated.mergeSort fun a b => a.1 ≤ b.1).map (·.2)

end ScriptGraph.Text
