import ScriptGraph.Text.Alphanumeric
import ScriptGraph.Text.Blank

/-! # Writers

A writer puts lines of source text one after the other, indented by the depth of the open blocks.
A line is a statement unless it opens or continues a block or is a comment; statements end in a
semicolon where semicolons are wanted.
-/

namespace ScriptGraph.Source

/-- Words that begin a line which is no statement of its own. -/
def blockKeywords : List String := [
  "function", "async", "class", "if", "else", "for", "while", "do", "switch", "case", "default",
  "try", "catch", "finally"]

/-- Characters of a word. -/
def isWordChar (c : Char) : Bool :=
  Text.isAlphanumeric c || c = '_' || c = '$'

/-- Last characters after which no semicolon comes. -/
def endsOpen (c : Char) : Bool :=
  c = '{' || c = '}' || c = ';' || c = ',' || c = ':'

/-- Whether a line is a plain statement. -/
def isStatement (line : String) : Bool :=
  let cs := (Text.trim line).toList
  let isComment := ['/', '/'].isPrefixOf cs || ['/', '*'].isPrefixOf cs
  let isOpen := cs.getLast?.any endsOpen
  let word := String.ofList (cs.takeWhile isWordChar)
  !isComment && !isOpen && !blockKeywords.contains word

/-- A line without blanks at its end and without the semicolons before them. -/
def cleanLine (text : String) : String :=
  String.ofList (Text.dropEndWhile (· = ';') (Text.trimEnd text).toList)

/-- A line as it stands in the text. A line of blanks is empty. -/
def formatLine (semicolons : Bool) (depth : Nat) (text : String) : String :=
  let clean := cleanLine text
  if (Text.trim clean).isEmpty then "\n"
  else
    let indent := String.ofList (List.replicate (2 * depth) ' ')
    let terminator := if semicolons && isStatement clean then ";" else ""
    indent ++ clean ++ terminator ++ "\n"

/-- What a writer can be told to do. -/
inductive Step where
  | line (text : String)
  /-- A line at a place that was marked earlier, as if at another depth. -/
  | insert (mark depth : Nat) (text : String)
  | blank
  /-- A line that closes a block. -/
  | close (text : String)
  | indent
  | dedent
  deriving DecidableEq

structure Writer where
  semicolons : Bool
  depth : Nat := 0
  buffer : String := ""

namespace Writer

/-- The present end of the text, in bytes. -/
def mark (w : Writer) : Nat :=
  w.buffer.utf8ByteSize

def line (w : Writer) (text : String) : Writer :=
  { w with buffer := w.buffer ++ formatLine w.semicolons w.depth text }

/-- Splits a text after so many bytes, or at its end. -/
def splitAtByte : (bytes : Nat) → List Char → List Char × List Char
  | _, [] => ([], [])
  | bytes, c :: rest =>
    if bytes = 0 then ([], c :: rest)
    else
      let (before, after) := splitAtByte (bytes - c.utf8Size) rest
      (c :: before, after)

def insertLine (w : Writer) (mark depth : Nat) (text : String) : Writer :=
  let (before, after) := splitAtByte mark w.buffer.toList
  { w with
    buffer := String.ofList before ++ formatLine w.semicolons depth text ++ String.ofList after }

def blank (w : Writer) : Writer :=
  { w with buffer := w.buffer ++ "\n" }

/-- Drops the blank lines at the end of a text that is given in reverse. -/
def dropBlankLines : List Char → List Char
  | '\n' :: '\n' :: rest => dropBlankLines ('\n' :: rest)
  | cs => cs

/-- A line without any blank line before it. -/
def close (w : Writer) (text : String) : Writer :=
  line { w with buffer := String.ofList (dropBlankLines w.buffer.toList.reverse).reverse } text

def indent (w : Writer) : Writer :=
  { w with depth := w.depth + 1 }

def dedent (w : Writer) : Writer :=
  { w with depth := w.depth - 1 }

def apply (w : Writer) : Step → Writer
  | .line text => w.line text
  | .insert mark depth text => w.insertLine mark depth text
  | .blank => w.blank
  | .close text => w.close text
  | .indent => w.indent
  | .dedent => w.dedent

/-- The whole text, trimmed. -/
def finish (w : Writer) : String :=
  Text.trim w.buffer

end Writer

/-- The text that steps write from the beginning. -/
def textOf (semicolons : Bool) (steps : List Step) : String :=
  (steps.foldl Writer.apply { semicolons }).finish

end ScriptGraph.Source
