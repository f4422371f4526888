/-! # The grammar of the command line

The program has subcommands, each with options and at most one argument, the path of a graph. The
texts of help are written from the same grammar that arguments are read by.
-/

namespace ScriptGraph.Command

/-- The name that the program is called by. -/
def programName : String := "kumitate-cli"

def programVersion : String := "kumitate 0.1.0"

def programAbout : String :=
  "A graph compilation and execution engine for visual node-based scripts"

/-- What the argument of a subcommand is called. -/
def graphName : String := "GRAPH_PATH"

/-- The argument of a subcommand. -/
def graphArgument : String := s!"<{graphName}>"

/-- What an option is for. The name of a value is shown in its place. -/
inductive OptionRole where
  | flag
  | text (value : String)
  | number (value : String)
  | help
  | version
  deriving DecidableEq

/-- An option of the program or of a subcommand. -/
structure OptionForm where
  long : String
  short : Option Char := none
  role : OptionRole := .flag
  help : String

namespace OptionForm

/-- What the value of the option is called, if it has one. -/
def value? (o : OptionForm) : Option String :=
  match o.role with
  | .text value | .number value => some value
  | .flag | .help | .version => none

/-- The option as messages show it. -/
def shown (o : OptionForm) : String :=
  match o.value? with
  | some value => s!"--{o.long} <{value}>"
  | none => s!"--{o.long}"

/-- The option as a list of options shows it. -/
def listed (o : OptionForm) : String :=
  match o.short with
  | some c => s!"-{c}, {o.shown}"
  | none => s!"    {o.shown}"

/-- The option that all have. -/
def forHelp : OptionForm :=
  { long := "help", short := 'h', role := .help, help := "Print help" }

def forVersion : OptionForm :=
  { long := "version", short := 'V', role := .version, help := "Print version" }

end OptionForm

/-- The subcommands. -/
inductive Verb where
  | generate
  | run
  | check
  | kinds
  deriving DecidableEq

namespace Verb

def all : List Verb := [generate, run, check, kinds]

def name : Verb → String
  | generate => "generate"
  | run => "run"
  | check => "check"
  | kinds => "kinds"

def ofName? (name : String) : Option Verb :=
  all.find? (·.name = name)

def about : Verb → String
  | generate => "Generate source text for a graph"
  | run => "Execute a graph directly"
  | check => "Report structural problems in a graph"
  | kinds => "List the built-in node kinds"

def takesGraph : Verb → Bool
  | kinds => false
  | _ => true

/-- The options of a subcommand, but for help. -/
def options : Verb → List OptionForm
  | generate => [
    { long := "settings", short := 's', role := .text "SETTINGS"
      help := "Generator settings JSON (editor settings format)" },
    { long := "output", short := 'o', role := .text "OUTPUT"
      help := "Write the source here instead of stdout" },
    { long := "no-strict", help := "Omit the \"use strict\" header" },
    { long := "no-semicolons", help := "Do not terminate statements with semicolons" },
    { long := "prefer-const", help := "Declare never-reassigned variables with const" },
    { long := "no-comments", help := "Omit the per-node explanatory comments" }]
  | run => [
    { long := "debug", short := 'd'
      help := "Print execution progress and node failures to the console" },
    { long := "seed", role := .number "SEED", help := "Seed for Random nodes" },
    { long := "max-loop-iterations", role := .number "MAX_LOOP_ITERATIONS"
      help := "Stop any single loop after this many iterations [default: 10000]" },
    { long := "http-timeout", role := .number "HTTP_TIMEOUT"
      help := "HTTP request timeout in seconds [default: 30]" }]
  | check => []
  | kinds => [{ long := "json", help := "Print the full descriptors as JSON" }]

end Verb

/-- The subcommand that shows help. -/
def helpName : String := "help"

def helpAbout : String :=
  "Print this message or the help of the given subcommand(s)"

/-- The names that a call of the program can begin with. -/
def commandNames : List String :=
  Verb.all.map (·.name) ++ [helpName]

/-- What arguments are read for: the program before any subcommand, a subcommand, or the one that
shows help. -/
inductive Scope where
  | program
  | verb (verb : Verb)
  | help
  deriving DecidableEq

namespace Scope

def options : Scope → List OptionForm
  | program => [.forHelp, .forVersion]
  | verb v => v.options ++ [.forHelp]
  | help => []

def takesGraph : Scope → Bool
  | verb v => v.takesGraph
  | program | help => false

/-- The words that a call begins with. -/
def callWords : Scope → List String
  | program => [programName]
  | verb v => [programName, v.name]
  | help => [programName, helpName]

/-- What stands behind the options of a call. -/
def operands : Scope → List String
  | program => ["<COMMAND>"]
  | verb v => if v.takesGraph then [graphArgument] else []
  | help => ["[COMMAND]..."]

/-- What can be given to a subcommand to do its work, help apart. -/
def alternatives : Scope → List String
  | verb v => (if v.takesGraph then [graphName] else []) ++ v.options.map (·.shown)
  | program | help => []

/-- Whether a call can have options, help and version apart. -/
def hasOptions : Scope → Bool
  | verb v => !v.options.isEmpty
  | program | help => false

end Scope

/-- How much a line of usage tells about the options of a call. -/
inductive Usage where
  /-- Whether there are any. -/
  | general
  /-- These options. -/
  | listing (options : List OptionForm)
  /-- All that can be given, as alternatives, and this option if it is none of them. -/
  | choice (option : OptionForm)

/-- How the program is called. -/
def Scope.usage (scope : Scope) (usage : Usage) : String :=
  " ".intercalate <| scope.callWords ++
    match usage with
    | .general => (if scope.hasOptions then ["[OPTIONS]"] else []) ++ scope.operands
    | .listing options => options.map (·.shown) ++ scope.operands
    | .choice option =>
      let apart := if scope.alternatives.contains option.shown then [] else [option.shown]
      apart ++ ["<" ++ "|".intercalate scope.alternatives ++ ">"]

/-! ### Help -/

/-- The width of a line of help. -/
def lineWidth : Nat := 100

def blanks (n : Nat) : String :=
  String.ofList (List.replicate n ' ')

/-- Rows of two columns, the second of which begins behind the longest entry of the first. If the
first takes more than two fifths of a line and an entry of the second does not fit beside it, the
entries of the second stand on lines of their own. -/
def columns (rows : List (String × String)) : List String :=
  let width := (rows.map (·.1.length)).foldl max 0
  let taken := width + 4
  let isTight := 2 * lineWidth < 5 * taken &&
    rows.any fun (_, right) => lineWidth < taken + right.length
  if isTight then rows.flatMap fun (left, right) => ["  " ++ left, blanks 10 ++ right]
  else rows.map fun (left, right) => "  " ++ left ++ blanks (width - left.length + 2) ++ right

def text (lines : List String) : String :=
  String.join (lines.map (· ++ "\n"))

def optionRows (scope : Scope) : List String :=
  columns (scope.options.map fun o => (o.listed, o.help))

/-- What the program can do. -/
def programHelp : String :=
  text <| [programAbout, "", s!"Usage: {Scope.program.usage .general}", "", "Commands:"] ++
    columns (Verb.all.map (fun verb => (verb.name, verb.about)) ++ [(helpName, helpAbout)]) ++
    ["", "Options:"] ++ optionRows .program

/-- What a subcommand does. -/
def Verb.help (verb : Verb) : String :=
  let arguments :=
    if verb.takesGraph then
      ["Arguments:"] ++ columns [(graphArgument, "Path to the graph JSON file")] ++ [""]
    else []
  text <| [verb.about, "", s!"Usage: {(Scope.verb verb).usage .general}", ""] ++ arguments ++
    ["Options:"] ++ optionRows (.verb verb)

def Scope.helpText : Scope → String
  | program => programHelp
  | verb v => v.help
  | help =>
    text <| [helpAbout, "", s!"Usage: {Scope.help.usage .general}", "", "Arguments:"] ++
      columns [("[COMMAND]...", "Print help for the subcommand(s)")]

end ScriptGraph.Command
