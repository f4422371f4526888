import ScriptGraph.Command.Action
import ScriptGraph.Command.Arguments
import ScriptGraph.Graph.Document
import ScriptGraph.Graph.Issue
import ScriptGraph.Script.Interpreter
import ScriptGraph.Source.Generator

/-! # Performing requests

The actions that answer a request: generate source text, run a graph, check it, or list the kinds.
-/

namespace ScriptGraph.Command

/-- Reads a file and what it holds, or ends with an error. -/
def load {α : Type} (parse : String → Except Json.ReadError α) (path lead : String)
    (next : α → Action) : Action :=
  .read path fun
    | .error reason => .fail (lead ++ (LoadError.unreadable path reason).message)
    | .ok content =>
      match parse content with
      | .error error => .fail (lead ++ (LoadError.parse error).message)
      | .ok result => next result

def loadGraph (path : String) (next : Graph → Action) : Action :=
  load Graph.ofJson path "" next

/-- The options of a settings file, or the default ones. -/
def loadSettings (path : Option String) (next : Source.Options → Action) : Action :=
  match path with
  | some path => load Source.Options.ofJson path "Failed to load settings: " next
  | none => next {}

/-- How many lines a text has. A line break at its end begins no line. -/
def lineCount (text : String) : Nat :=
  let cs := text.toList
  cs.count '\n' + (if cs.isEmpty || cs.getLast? = some '\n' then 0 else 1)

/-- Puts generated source where it was asked for. -/
def deliver (source : String) (output : Option String) : Action :=
  match output with
  | none => .printLine .output source (.exit 0)
  | some path =>
    .write path (source ++ "\n") fun
      | .error reason => .fail s!"Failed to write '{path}': {reason}"
      | .ok () =>
        .printLine .errors s!"Wrote {lineCount source} lines to {path}" (.exit 0)

/-- The lines that list a run's outcome. -/
def summary (r : Script.Run) : List String :=
  ["", "--- Run Summary ---", s!"Nodes executed: {r.visited.length}",
    s!"Diagnostics:    {r.diagnostics.length}"] ++
    r.diagnostics.map fun d => s!"  -> {d.message}"

/-- A number of units of some nanoseconds each, with as many decimal places as it takes. -/
def inUnits (nanoseconds unit places : Nat) : String :=
  let digits := Nat.toDigits 10 (nanoseconds % unit)
  let padded := List.replicate (places - digits.length) '0' ++ digits
  let fraction := (padded.reverse.dropWhile (· = '0')).reverse
  let point := if fraction.isEmpty then "" else "."
  toString (nanoseconds / unit) ++ point ++ String.ofList fraction

/-- A length of time in the greatest unit that it fills. -/
def durationText (nanoseconds : Nat) : String :=
  if 1000000000 ≤ nanoseconds then inUnits nanoseconds 1000000000 9 ++ "s"
  else if 1000000 ≤ nanoseconds then inUnits nanoseconds 1000000 6 ++ "ms"
  else if 1000 ≤ nanoseconds then inUnits nanoseconds 1000 3 ++ "µs"
  else s!"{nanoseconds}ns"

/-- Prints the lines of a run and keeps its pauses. -/
def replay (debug : Bool) (next : Action) : List Script.Event → Action
  | [] => next
  | .pause seconds :: rest => .pause seconds (replay debug next rest)
  | event :: rest =>
    match event.line? debug with
    | some line => .printLine (streamOf line.level) line.text (replay debug next rest)
    | none => replay debug next rest

/-- Prints a line of the debug mode. -/
def banner (debug : Bool) (line : Script.Line) (next : Action) : Action :=
  if debug then .printLine (streamOf line.level) line.text next else next

/-- Shows a run on the console, then what came of it and how long it took. -/
def report (debug : Bool) (run : Unit → Script.Run) : Action :=
  .clock fun start =>
    let r := run ()
    banner debug Script.Run.startBanner <|
      replay debug
        (banner debug Script.Run.endBanner <|
          .printLines .errors (summary r) <|
            .clock fun stop =>
              .printLine .errors s!"Duration:       {durationText (stop - start)}" (.exit 0))
        r.log

/-- Goes on with the word given, or with a random one. -/
def withSeed (seed : Option UInt64) (next : UInt64 → Action) : Action :=
  match seed with
  | some seed => next seed
  | none => .entropy next

/-- Prints the issues of a graph. -/
def showIssues (graph : Graph) : Action :=
  let issues := Workspace.issues { graph, registry := .builtin }
  if issues.isEmpty then
    .printLine .output
      s!"No issues found ({graph.nodes.size} nodes, {graph.edges.size} edges)." (.exit 0)
  else
    .printLines .output
      (issues.map (fun issue => s!"warning: {issue.message}") ++
        [s!"{issues.length} issue(s) found."])
      (.exit 2)

/-- A text with blanks up to a width behind it. -/
def padded (width : Nat) (text : String) : String :=
  text ++ String.ofList (List.replicate (width - text.length) ' ')

/-- The built-in kinds, as a table or as JSON. -/
def kindsText (json : Bool) : String :=
  let descriptors := Registry.builtin.descriptors
  if json then
    (Json.Rendering.array (descriptors.map (·.rendering))).toString (.indented 2) ++ "\n"
  else
    text <| descriptors.map fun d => s!"{padded 16 d.name} {padded 18 d.group} {d.description}"

/-- What is done about a request. -/
def Request.action : Request → Action
  | .generate path settings output noStrict noSemicolons preferConst noComments =>
    loadSettings settings fun options =>
      loadGraph path fun graph =>
        let options : Source.Options := {
          emitStrictHeader := options.emitStrictHeader && !noStrict
          emitSemicolons := options.emitSemicolons && !noSemicolons
          preferConst := options.preferConst || preferConst
          emitComments := options.emitComments && !noComments }
        let generator : Source.Generator := { options }
        deliver (generator.generate graph) output
  | .run path debug seed maxLoopIterations =>
    loadGraph path fun graph =>
      withSeed seed fun seed =>
        let interpreter : Script.Interpreter :=
          { maxLoopIterations, draws := .ofSeed seed, debug }
        report debug fun _ => interpreter.run graph
  | .check path => loadGraph path showIssues
  | .kinds json => .print .output (kindsText json) (.exit 0)
  | .help text => .print .output text (.exit 0)
  | .version => .printLine .output programVersion (.exit 0)
  | .nothing => .print .errors programHelp (.exit 2)

/-- What the program does when it is called with arguments. -/
def actionOf (arguments : List String) : Action :=
  match Request.ofArguments arguments with
  | .ok request => request.action
  | .error error => .print .errors error.message (.exit 2)

end ScriptGraph.Command
