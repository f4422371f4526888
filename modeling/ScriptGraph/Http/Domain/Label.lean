import ScriptGraph.Http.Domain.Mapping
import ScriptGraph.Http.Domain.Punycode
import ScriptGraph.Text.Direction
import ScriptGraph.Text.Joining
import ScriptGraph.Text.Mark
import ScriptGraph.Text.Normal

/-! # Labels of domain names

A label is what stands between the dots of a domain name. One with characters beyond ASCII has two
forms, its text and its form in ASCII, which begins with `xn--`.
-/

namespace ScriptGraph.Http.Domain

/-- A label in both forms. -/
structure Label where
  text : List Char
  ascii : List Char
  deriving DecidableEq

namespace Label

/-! ### Characters in their places -/

def isVirama (c : Char) : Bool :=
  Text.combiningClass c = Text.viramaClass

/-- Whether a joiner can stand behind `before`, nearest character first, and in front of `after`. A
character that parts two letters must stand between letters that would join. -/
def admitsJoiner (before : List Char) (joiner : Char) (after : List Char) : Bool :=
  let isBehindVirama := before.head?.any isVirama
  let reaches (p : Char → Bool) (cs : List Char) : Bool :=
    (cs.dropWhile Text.isJoinedAcross).head?.any p
  if joiner = '\u200D' then isBehindVirama
  else if joiner = '\u200C' then
    isBehindVirama || reaches Text.joinsNext before && reaches Text.joinsPrevious after
  else true

/-- Whether the joiners in the rest of a label stand where they can. -/
def hasFitJoiners : (before : List Char) → List Char → Bool
  | _, [] => true
  | before, c :: rest => admitsJoiner before c rest && hasFitJoiners (c :: before) rest

/-- Whether the text of a label has permitted characters only, each in a place where it can be. -/
def isValidText (cs : List Char) : Bool :=
  cs.all isPermitted && !cs.contains '.' && !cs.head?.any Text.isMark && hasFitJoiners [] cs

/-! ### Direction -/

/-- Whether a label makes its name one with two directions. -/
def isBidirectional (l : Label) : Bool :=
  l.text.any fun c => [.right, .arabicNumber].contains (Text.direction c)

/-- Whether a label can be shown in one direction. It begins with a letter; a label from right to
left has no letter the other way and one kind of number, and ends in a letter or number. -/
def isCoherent (l : Label) : Bool :=
  let directions := l.text.map Text.direction
  let last := (directions.reverse.dropWhile (· = .mark)).head?
  match directions.head? with
  | none => true
  | some .right =>
    directions.all [.right, .arabicNumber, .europeanNumber, .neutral, .mark].contains &&
      last.any [.right, .europeanNumber, .arabicNumber].contains &&
      !(directions.contains .europeanNumber && directions.contains .arabicNumber)
  | some .left =>
    directions.all [.left, .europeanNumber, .neutral, .mark].contains &&
      last.any [.left, .europeanNumber].contains
  | some _ => false

/-! ### Both forms -/

def isAscii (cs : List Char) : Bool :=
  cs.all (·.val < 128)

/-- The mark of a label in ASCII that stands for another text. -/
def asciiMark : List Char := ['x', 'n', '-', '-']

/-- The longest text that gets a form in ASCII. -/
def textLimit : Nat := 1000

/-- The longest form in ASCII, without its mark, that is read. -/
def asciiLimit : Nat := 2000

/-- The label with a form in ASCII, given without its mark. -/
def ofAscii? (cs : List Char) : Option Label := do
  if !isAscii cs || asciiLimit < cs.length then none
  else
    let text ← Punycode.decode? cs
    if isAscii text || Text.normalize text ≠ text || !isValidText text then none
    else return { text, ascii := asciiMark ++ cs }

/-- The label that stands in a name, in either form. -/
def ofChars? (cs : List Char) : Option Label :=
  if asciiMark.isPrefixOf cs then ofAscii? (cs.drop asciiMark.length)
  else if !isValidText cs then none
  else if isAscii cs then some { text := cs, ascii := cs }
  else if textLimit < cs.length then none
  else some { text := cs, ascii := asciiMark ++ Punycode.encode cs }

end Label

/-! ### Names -/

/-- The domain name in ASCII that a text stands for. -/
def ofText? (text : List Char) : Option (List Char) := do
  let images ← text.mapM image?
  let labels ← ((Text.normalize images.flatten).splitOnP (· = '.')).mapM Label.ofChars?
  if labels.any (·.isBidirectional) && !labels.all (·.isCoherent) then none
  else return ['.'].intercalate (labels.map (·.ascii))

end ScriptGraph.Http.Domain
