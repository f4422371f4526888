import ScriptGraph.Http.Url

/-! # Paths of addresses

A path is read segment by segment. A segment of one dot stays where it is, and one of two dots goes
back to where the segment before it began. A segment that names a drive, such as `C:`, is not left.
-/

namespace ScriptGraph.Http.Url

def pathReserved : List Char := [' ', '"', '<', '>', '`', '#', '?', '{', '}']

/-- A text without capitals of ASCII. -/
def lowered (cs : List Char) : String :=
  String.ofList (cs.map Char.toLower)

def isSingleDot (segment : List Char) : Bool :=
  [".", "%2e"].contains (lowered segment)

def isDoubleDot (segment : List Char) : Bool :=
  ["..", ".%2e", "%2e.", "%2e%2e"].contains (lowered segment)

/-- Whether a segment names a drive. -/
def isDrive : List Char → Bool
  | [letter, mark] => letter.isAlpha && (mark = ':' || mark = '|')
  | _ => false

/-- A path under way, from its first slash on, the last character first. -/
structure PathProgress where
  reversed : List Char
  /-- Whether the path has turned out to begin with a drive, which no host has. -/
  beginsWithDrive : Bool := false

namespace PathProgress

/-- Leaves the last segment, unless it names a drive or there is none. -/
def leave (p : PathProgress) : PathProgress :=
  match p.reversed with
  | '/' :: before =>
    let segment := before.takeWhile (· ≠ '/')
    if before.contains '/' && !isDrive segment.reverse then
      { p with reversed := before.drop segment.length }
    else p
  | _ => p

/-- Goes on with a segment; all but the last are followed by a slash. -/
def step (isFile : Bool) (p : PathProgress) (segment : List Char) (isLast : Bool) :
    PathProgress :=
  if isDoubleDot segment then p.leave
  else if isSingleDot segment then p
  else
    let isFirstDrive := isFile && p.reversed.length = 1 && isDrive segment
    let text :=
      if isFirstDrive then segment.take 1 ++ [':'] else Percent.encode pathReserved segment
    let reversed := text.reverse ++ p.reversed
    { reversed := if isLast then reversed else '/' :: reversed
      beginsWithDrive := p.beginsWithDrive || isFirstDrive }

/-- Goes on with segments up to the last one. -/
def follow (isFile : Bool) (p : PathProgress) : List (List Char) → PathProgress
  | [] => p
  | segment :: rest => (p.step isFile segment rest.isEmpty).follow isFile rest

end PathProgress

/-- Reads the rest of a path that has begun so far. The path of a file begins with one slash. -/
def readPath (kind : SchemeKind) (begun cs : List Char) : PathProgress :=
  let isSeparator (c : Char) : Bool := c = '/' || (kind.isKnown && c = '\\')
  let isFile := kind = .file
  let p := PathProgress.follow isFile { reversed := begun.reverse } (cs.splitOnP isSeparator)
  if isFile then
    { p with reversed := (p.reversed.reverse.dropWhile (· = '/')).reverse ++ ['/'] }
  else p

def PathProgress.text (p : PathProgress) : String :=
  String.ofList p.reversed.reverse

end ScriptGraph.Http.Url
