import ScriptGraph.Script.Execute.Outside

/-! # Interpreters

An interpreter executes a graph. A run never fails: a failure of a node is reported, the node
records nothing more, and the run goes on behind it.
-/

namespace ScriptGraph.Script

/-- Kinds, how to execute each kind, and the world that a run meets. -/
structure Interpreter where
  registry : Registry := .builtin
  executors : Table String Executor :=
    Kind.all.foldl (fun executors kind => executors.insert kind.name (Execute.builtin kind)) {}
  maxLoopIterations : Nat := 10000
  exchange : Http.Exchange := .unreachable
  draws : Draws := .ofSeed 0
  /-- Whether the console shows how a run goes. -/
  debug : Bool := false

/-- What happened in a run. -/
structure Run where
  log : List Event

namespace Interpreter

/-- Lets nodes of a kind of the user's be executed like a built-in kind. -/
def mapKind (i : Interpreter) (user kind : String) : Interpreter :=
  { i with
    executors := match Kind.ofName? kind with
      | some kind => i.executors.insert user (Execute.builtin kind)
      | none => i.executors
    registry := i.registry.withAlias user kind }

/-- Adds an executor for a kind, or replaces the one it has. -/
def withExecutor (i : Interpreter) (kind : String) (executor : Executor) : Interpreter :=
  { i with executors := i.executors.insert kind executor }

/-- Switches debug mode on or off. -/
def withDebug (i : Interpreter) (debug : Bool) : Interpreter :=
  { i with debug }

def setting (i : Interpreter) (graph : Graph) : Setting where
  graph
  registry := i.registry
  maxLoopIterations := i.maxLoopIterations
  exchange := i.exchange
  draws := i.draws

/-- Enters a node, unless it has been entered in this scope. -/
def enter (id : NodeId) : RunM Bool := do
  let (isNew, visited) := (← get).visited.enter id
  modify fun m => { m with visited }
  return isNew

/-- How a node is executed. -/
def executorOf (i : Interpreter) (kind : String) : Executor :=
  match i.executors.get? kind with
  | some executor => executor
  | none => fun _ _ _ => throw (.unsupported "node kind" kind)

/-- Executes one node. Behind a failure every control output is followed. -/
def execute (i : Interpreter) (s : Setting) (visit : Node → RunM Unit) (node : Node) :
    RunM Flow := do
  log (.node node.id)
  trace s!"Executing node: {node.kind} (ID: {node.id.text})"
  match ← (i.executorOf node.kind s visit node).run with
  | .ok flow => return flow
  | .error fault =>
    diagnose node fault
    return .proceed

/-- Executes a node and what it leads to. -/
def visit (i : Interpreter) (graph : Graph) : Node → RunM Unit :=
  let s := i.setting graph
  walk s.toWorkspace enter (i.execute s) graph.nodes.size

/-- The state after all entry nodes have been walked. -/
def machine (i : Interpreter) (graph : Graph) : Machine :=
  let pass := (i.setting graph).entryNodes.forM (i.visit graph)
  (pass.run { debug := i.debug }).2

/-- Executes a graph from every entry node. -/
def run (i : Interpreter) (graph : Graph) : Run :=
  ⟨(i.machine graph).log.toList⟩

end Interpreter

namespace Run

/-- The nodes in the order of execution, a node once for each time. -/
def visited (r : Run) : List NodeId :=
  r.log.filterMap fun
    | .node id => some id
    | _ => none

def diagnostics (r : Run) : List Diagnostic :=
  r.log.filterMap fun
    | .failure d => some d
    | _ => none

/-- The requests that were answered. -/
def answered (r : Run) : List Http.Request :=
  r.log.filterMap fun
    | .request request (some _) => some request
    | _ => none

/-- The notes that executors left. -/
def notes (r : Run) : List Json.Value :=
  r.log.filterMap fun
    | .note content => some content
    | _ => none

def startBanner : Line :=
  ⟨.log, "--- Starting script execution (debug mode) ---"⟩

def endBanner : Line :=
  ⟨.log, "--- Script execution completed ---"⟩

/-- The lines that a console shows for what has happened, with those of debug mode or without. -/
def console (r : Run) (debug : Bool) : List Line :=
  let lines := r.log.filterMap (·.line? debug)
  if debug then startBanner :: lines ++ [endBanner] else lines

def isClean (r : Run) : Bool :=
  r.diagnostics.isEmpty

/-- How often a node was executed. -/
def visitCount (r : Run) (id : NodeId) : Nat :=
  r.visited.count id

def diagnosticsFor (r : Run) (id : NodeId) : List Diagnostic :=
  r.diagnostics.filter (·.node = id)

end Run

/-- The lines that a run writes on the console. In debug mode it says when it begins and ends. -/
def Interpreter.console (i : Interpreter) (graph : Graph) : List Line :=
  let lines := (i.machine graph).console.toList
  if i.debug then Run.startBanner :: lines ++ [Run.endBanner] else lines

end ScriptGraph.Script
