import ScriptGraph.Text.Hexadecimal

/-! # Charts of characters

A property of many characters is written down as a chart: words with code points in base 16. The
word `41` names one code point, `41-5a` those from the first to the last, and `100-12e/2` every
second one of them. What they stand for follows behind `>`, as code points between dots. A run of
several code points stands for as many, at the same distances.
-/

namespace ScriptGraph.Text

/-- The code points `first, first + step, …, last`, and what the first of them stands for. -/
structure Run where
  first : Nat
  last : Nat
  step : Nat
  image : List Nat
  deriving DecidableEq

abbrev Chart := List Run

/-- What comes before a character, and what comes after its first occurrence. -/
def cut (mark : Char) (cs : List Char) : List Char × List Char :=
  (cs.takeWhile (· ≠ mark), (cs.dropWhile (· ≠ mark)).drop 1)

namespace Run

def covers (r : Run) (n : Nat) : Bool :=
  r.first ≤ n && n ≤ r.last && (n - r.first) % r.step = 0

/-- What a code point of the run stands for. -/
def imageOf (r : Run) (n : Nat) : List Nat :=
  match r.image with
  | [m] => [m + (n - r.first)]
  | image => image

/-- The run that a word describes. -/
def ofWord (word : List Char) : Run :=
  let (range, image) := cut '>' word
  let (range, step) := cut '/' range
  let (first, last) := cut '-' range
  let number := numberIn 16
  { first := number first
    last := number (if last.isEmpty then first else last)
    step := if step.isEmpty then 1 else number step
    image := if image.isEmpty then [] else (image.splitOnP (· = '.')).map number }

end Run

namespace Chart

/-- Reads a chart. -/
def ofText (text : String) : Chart :=
  let words := text.toList.splitOnP fun c => c = ' ' || c = '\n'
  (words.filter fun word => !word.isEmpty).map Run.ofWord

def contains (chart : Chart) (c : Char) : Bool :=
  chart.any (·.covers c.toNat)

/-- What a character stands for, if the chart has it. -/
def image? (chart : Chart) (c : Char) : Option (List Char) :=
  (chart.find? (·.covers c.toNat)).map fun r => (r.imageOf c.toNat).map Char.ofNat

end Chart

end ScriptGraph.Text
