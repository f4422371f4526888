import ScriptGraph.Command.Grammar
import ScriptGraph.Json.Value
import ScriptGraph.Text.Similarity

/-! # Arguments

What the arguments of the program ask for, and how they are refused. They are read one after the
other. A value is looked at when the argument after it is taken, so a later argument that has no
place at all is refused before it.
-/

namespace ScriptGraph.Command

/-- Why a text is no number of 64 bits. -/
inductive NumberFault where
  | empty
  | digit
  | tooLarge
  deriving DecidableEq

def NumberFault.message : NumberFault → String
  | .empty => "cannot parse integer from empty string"
  | .digit => "invalid digit found in string"
  | .tooLarge => "number too large to fit in target type"

/-- Reads a number of 64 bits; a plus sign may stand before it. -/
def readNumber (text : String) : Except NumberFault UInt64 :=
  let digits :=
    match text.toList with
    | '+' :: rest => if rest.isEmpty then ['+'] else rest
    | cs => cs
  if digits.isEmpty then .error .empty
  else if !digits.all Char.isDigit then .error .digit
  else
    let n := digits.foldl (fun n c => n * 10 + (c.toNat - '0'.toNat)) 0
    if n < Json.unsignedLimit then .ok (UInt64.ofNat n) else .error .tooLarge

/-- What may have been meant by an argument that has no place. -/
inductive Hint where
  /-- A value that looks like an option. -/
  | value
  /-- An option with another name. -/
  | similar (long : String)
  /-- An option of a subcommand. -/
  | ofVerb (verb : Verb) (long : String)
  deriving DecidableEq

def Hint.tip (argument : String) : Hint → String
  | value => s!"to pass '{argument}' as a value, use '-- {argument}'"
  | similar long => s!"a similar argument exists: '--{long}'"
  | ofVerb verb long => s!"'{verb.name} --{long}' exists"

/-- Why arguments are refused. -/
inductive UsageError where
  | unknownCommand (scope : Scope) (name : String) (similar : List String)
  /-- A subcommand where only values can stand. -/
  | commandAsValue (name : String)
  | unexpected (scope : Scope) (usage : Usage) (argument : String) (hint : Option Hint)
  | unexpectedValue (scope : Scope) (usage : Usage) (option : OptionForm) (value : String)
  | repeated (scope : Scope) (option : OptionForm)
  | noValue (option : OptionForm)
  | invalidValue (option : OptionForm) (value : String) (fault : NumberFault)
  | noGraph (scope : Scope) (options : List OptionForm)

namespace UsageError

def tipLines (tips : List String) : List String :=
  if tips.isEmpty then [] else "" :: tips.map ("  tip: " ++ ·)

/-- What to do about a name that resembles known ones. -/
def similarTip : List String → List String
  | [] => []
  | [name] => [s!"a similar subcommand exists: '{name}'"]
  | names =>
    ["some similar subcommands exist: " ++ ", ".intercalate (names.map fun n => s!"'{n}'")]

def usageLines (scope : Scope) (usage : Usage) : List String :=
  ["", s!"Usage: {scope.usage usage}"]

/-- What is wrong, with a hint and the usage where they help. -/
def lines : UsageError → List String
  | unknownCommand scope name similar =>
    [s!"unrecognized subcommand '{name}'"] ++ tipLines (similarTip similar) ++
      usageLines scope .general
  | commandAsValue name =>
    [s!"unexpected argument '{name}' found"] ++
      tipLines [s!"subcommand '{name}' exists; to use it, remove the '--' before it"] ++
      usageLines .program .general
  | unexpected scope usage argument hint =>
    [s!"unexpected argument '{argument}' found"] ++
      tipLines (hint.toList.map (·.tip argument)) ++ usageLines scope usage
  | unexpectedValue scope usage option value =>
    [s!"unexpected value '{value}' for '{option.shown}' found; no more were expected"] ++
      usageLines scope usage
  | repeated scope option =>
    [s!"the argument '{option.shown}' cannot be used multiple times"] ++
      usageLines scope .general
  | noValue option => [s!"a value is required for '{option.shown}' but none was supplied"]
  | invalidValue option value fault =>
    [s!"invalid value '{value}' for '{option.shown}': {fault.message}"]
  | noGraph scope options =>
    ["the following required arguments were not provided:", s!"  {graphArgument}"] ++
      usageLines scope (.listing options)

/-- Whether the option for help can be used where the error arises. -/
def offersHelp : UsageError → Bool
  | unknownCommand scope _ _ => scope ≠ .help
  | _ => true

def message (e : UsageError) : String :=
  let more := if e.offersHelp then ["", "For more information, try '--help'."] else []
  "error: " ++ text (e.lines ++ more)

end UsageError

/-- What the arguments ask for. -/
inductive Request where
  | generate (graph : String) (settings output : Option String)
      (noStrict noSemicolons preferConst noComments : Bool)
  | run (graph : String) (debug : Bool) (seed : Option UInt64) (maxLoopIterations : Nat)
  | check (graph : String)
  | kinds (json : Bool)
  /-- A text of help was asked for. -/
  | help (text : String)
  /-- Nothing was asked for. -/
  | nothing
  | version
  deriving DecidableEq

/-- Why the reading of arguments ends before they are all read. -/
inductive Stop where
  | refused (error : UsageError)
  | help (scope : Scope)
  | version
  /-- A subcommand has the rest of the arguments. -/
  | command (name : String) (rest : List String)

/-- What has been read and not yet been looked at. -/
inductive Waiting where
  | nothing
  /-- An option whose value is yet to come. -/
  | option (option : OptionForm)
  | value (option : OptionForm) (value : String)
  | graph (path : String)

/-- What has been read. -/
structure Given where
  /-- The options with their values. A flag has an empty one. -/
  options : List (OptionForm × String) := []
  graph : Option String := none
  waiting : Waiting := .nothing
  /-- Whether what follows counts as values, whatever it looks like. -/
  plain : Bool := false

namespace Given

def forms (g : Given) : List OptionForm :=
  g.options.map (·.1)

def value? (g : Given) (long : String) : Option String :=
  (g.options.find? (·.1.long = long)).map (·.2)

def isSet (g : Given) (long : String) : Bool :=
  (g.value? long).isSome

def number? (g : Given) (long : String) : Option UInt64 :=
  (g.value? long).bind fun value => (readNumber value).toOption

/-- The options given, and one more unless it is among them. -/
def formsWith (g : Given) (option : OptionForm) : List OptionForm :=
  if g.isSet option.long then g.forms else g.forms ++ [option]

/-- Takes an option with its value. What is left is good for a message even if it is refused. -/
def store (g : Given) (scope : Scope) (option : OptionForm) (value : String) :
    Given × Option UsageError :=
  if g.isSet option.long then
    ({ g with options := g.options.filter (·.1.long ≠ option.long) },
      some (.repeated scope option))
  else
    let stored := { g with options := g.options ++ [(option, value)] }
    match option.role, readNumber value with
    | .number _, .error fault => (stored, some (.invalidValue option value fault))
    | _, _ => (stored, none)

/-- Looks at what waits. -/
def settle (g : Given) (scope : Scope) : Given × Option UsageError :=
  let settled := { g with waiting := .nothing }
  match g.waiting with
  | .nothing => (settled, none)
  | .option option => (settled, some (.noValue option))
  | .value option value => settled.store scope option value
  | .graph path => ({ settled with graph := some path }, none)

/-- The result of a step, unless it is refused. -/
def accepted : Given × Option UsageError → Except Stop Given
  | (g, none) => .ok g
  | (_, some error) => .error (.refused error)

/-- Takes an option that stands with its value or needs none. -/
def takeWhole (g : Given) (scope : Scope) (option : OptionForm) (value : String) :
    Except Stop Given := do
  let g ← accepted (g.settle scope)
  match option.role with
  | .help => throw (.help scope)
  | .version => throw .version
  | .flag | .text _ | .number _ => accepted (g.store scope option value)

/-- Takes an option whose value is the next argument. -/
def await (g : Given) (scope : Scope) (option : OptionForm) : Except Stop Given := do
  return { ← accepted (g.settle scope) with waiting := .option option }

/-- The option with a long name that is most like the one given: of the scope itself, or else of the
first subcommand that follows. -/
def hint? (scope : Scope) (name : String) (rest : List String) : Option Hint :=
  let best (scope : Scope) := (Text.similarNames name (scope.options.map (·.long))).getLast?
  match scope, best scope with
  | _, some long => some (.similar long)
  | .program, none =>
    rest.findSome? fun argument => do
      let verb ← Verb.ofName? argument
      return .ofVerb verb (← best (.verb verb))
  | scope, none => if scope.takesGraph then some .value else none

/-- Whether nothing has been looked at. -/
def isFresh (g : Given) : Bool :=
  g.options.isEmpty && g.graph.isNone

/-- Refuses a long option that the scope does not have. The usage lists what is given, with the
option that may have been meant. -/
def refuseLong {α : Type} (g : Given) (scope : Scope) (name : String) (rest : List String) :
    Except Stop α :=
  let (g, _) := g.settle scope
  let hint := hint? scope name rest
  let meant? :=
    match hint with
    | some (.similar long) => scope.options.find? (·.long = long)
    | _ => none
  let usage :=
    match meant? with
    | some option => .listing (g.formsWith option)
    | none => if g.isFresh then .general else .listing g.forms
  throw (.refused (.unexpected scope usage s!"--{name}" hint))

/-- Refuses a value of an option that has none. -/
def refuseValue {α : Type} (g : Given) (scope : Scope) (option : OptionForm) (value : String) :
    Except Stop α :=
  let usage := if g.isFresh then .listing [option] else .choice option
  throw (.refused (.unexpectedValue scope usage option value))

/-- Takes an option by its long name, with the value behind an equals sign if there is one. -/
def takeLong (g : Given) (scope : Scope) (name : String) (value : Option String)
    (rest : List String) : Except Stop Given :=
  match scope.options.find? (·.long = name) with
  | none => g.refuseLong scope name rest
  | some option =>
    match option.value?, value with
    | some _, none => g.await scope option
    | some _, some value => g.takeWhole scope option value
    | none, none => g.takeWhole scope option ""
    | none, some value => g.refuseValue scope option value

/-- Takes the options of a cluster of short names. The first that has a value takes the rest, from
behind an equals sign if one follows it. -/
def takeCluster (g : Given) (scope : Scope) : List Char → Except Stop Given
  | [] => .ok g
  | c :: rest =>
    match scope.options.find? (·.short = some c) with
    | none =>
      let hint := if scope.takesGraph then some Hint.value else none
      throw (.refused (.unexpected scope .general s!"-{c}" hint))
    | some option =>
      match option.value?, rest with
      | none, rest => do (← g.takeWhole scope option "").takeCluster scope rest
      | some _, [] => g.await scope option
      | some _, '=' :: value => g.takeWhole scope option (String.ofList value)
      | some _, value => g.takeWhole scope option (String.ofList value)

/-- Takes an argument that is neither an option nor the value of one. -/
def takeValue (g : Given) (scope : Scope) (argument : String) : Except Stop Given :=
  let settled := g.settle scope
  if scope.takesGraph && settled.1.graph.isNone then do
    return { ← accepted settled with waiting := .graph argument }
  else
    match scope with
    | .program =>
      if g.plain && commandNames.contains argument then
        throw (.refused (.commandAsValue argument))
      else
        let similar := Text.similarNames argument commandNames
        throw (.refused (.unknownCommand scope argument similar))
    | .verb _ | .help => throw (.refused (.unexpected scope .general argument none))

/-- Takes the next argument; `rest` is what follows it. -/
def take (g : Given) (scope : Scope) (argument : String) (rest : List String) :
    Except Stop Given :=
  if g.plain then g.takeValue scope argument
  else if scope = .program && commandNames.contains argument then
    throw (.command argument rest)
  else if argument = "--" then .ok { g with plain := true }
  else match argument.toList with
    | '-' :: '-' :: cs =>
      let name := String.ofList (cs.takeWhile (· ≠ '='))
      match cs.dropWhile (· ≠ '=') with
      | [] => g.takeLong scope name none rest
      | _ :: value => g.takeLong scope name (some (String.ofList value)) rest
    | '-' :: c :: cs => g.takeCluster scope (c :: cs)
    | _ =>
      match g.waiting with
      | .option option => .ok { g with waiting := .value option argument }
      | _ => g.takeValue scope argument

/-- Reads the arguments of a scope to their end. -/
def read (scope : Scope) (g : Given) : List String → Except Stop Given
  | [] => do
    let g ← accepted (g.settle scope)
    if scope.takesGraph && g.graph.isNone then throw (.refused (.noGraph scope g.forms))
    return g
  | argument :: rest => do (← g.take scope argument rest).read scope rest

/-- What a subcommand with options and arguments asks for. -/
def request (g : Given) (verb : Verb) : Request :=
  let graph := g.graph.getD ""
  match verb with
  | .generate =>
    .generate graph (g.value? "settings") (g.value? "output") (g.isSet "no-strict")
      (g.isSet "no-semicolons") (g.isSet "prefer-const") (g.isSet "no-comments")
  | .run =>
    let limit := (g.number? "max-loop-iterations").map (·.toNat)
    .run graph (g.isSet "debug") (g.number? "seed") (limit.getD 10000)
  | .check => .check graph
  | .kinds => .kinds (g.isSet "json")

end Given

/-- Finds the scope that names lead to. Only the program has subcommands. -/
def Scope.named (scope : Scope) : List String → Except UsageError Scope
  | [] => .ok scope
  | name :: rest =>
    match scope, Verb.ofName? name with
    | .program, some v => (Scope.verb v).named rest
    | .program, none =>
      if name = helpName then Scope.help.named rest else .error (.unknownCommand scope name [])
    | _, _ => .error (.unknownCommand scope name [])

/-- What is asked for by the end of a reading of arguments. -/
def Stop.request : Stop → Except UsageError Request
  | refused error => .error error
  | help scope => .ok (.help scope.helpText)
  | version => .ok .version
  | command name rest =>
    match Verb.ofName? name with
    | some verb =>
      match Given.read (.verb verb) {} rest with
      | .ok g => .ok (g.request verb)
      | .error (.refused error) => .error error
      | .error _ => .ok (.help verb.help)
    | none => (Scope.program.named rest).map fun scope => .help scope.helpText

/-- Reads the arguments of the program. -/
def Request.ofArguments (arguments : List String) : Except UsageError Request :=
  match Given.read .program {} arguments with
  | .ok _ => .ok .nothing
  | .error stop => stop.request

end ScriptGraph.Command
