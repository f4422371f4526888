import ScriptGraph.Source.Emit.Outside

/-! # Generators

A generator turns a graph into the text of one routine. Generation never fails: what is missing in
the graph shows as a comment.
-/

namespace ScriptGraph.Source

/-- Options, kinds, and how to write each kind. -/
structure Generator where
  options : Options := {}
  registry : Registry := .builtin
  emitters : Table String Emitter :=
    Kind.all.foldl (fun emitters kind => emitters.insert kind.name (Emit.builtin kind)) {}

namespace Generator

/-- Lets nodes of a kind of the user's be generated like a built-in kind. -/
def mapKind (g : Generator) (user kind : String) : Generator :=
  { g with
    emitters := match Kind.ofName? kind with
      | some kind => g.emitters.insert user (Emit.builtin kind)
      | none => g.emitters
    registry := g.registry.withAlias user kind }

/-- Adds an emitter for a kind, or replaces the one it has. -/
def withEmitter (g : Generator) (kind : String) (emitter : Emitter) : Generator :=
  { g with emitters := g.emitters.insert kind emitter }

def setting (g : Generator) (graph : Graph) : Setting :=
  { graph, registry := g.registry, options := g.options }

/-- Enters a node, unless it has been emitted. -/
def enter (id : NodeId) : EmitM Bool := do
  let (isNew, visited) := (← get).visited.enter id
  modify fun d => { d with visited }
  return isNew

/-- Emits one node, between comments if they are wanted. -/
def emit (g : Generator) (s : Setting) (visit : Node → EmitM Unit) (node : Node) :
    EmitM Flow := do
  log (.node node.id)
  if g.options.emitComments then write (.processing node.kind)
  let flow ←
    match g.emitters.get? node.kind with
    | some emitter => emitter s visit node
    | none =>
      line s!"// Unsupported node kind: {node.kind}"
      pure .proceed
  if g.options.emitComments then
    write (.finished node.kind)
    log .blank
  return flow

/-- Emits a node and what it leads to. -/
def visit (g : Generator) (graph : Graph) : Node → EmitM Unit :=
  let s := g.setting graph
  walk s.toWorkspace enter (g.emit s) graph.nodes.size

/-- The state in which a pass begins: no temporary may take the name of a variable. -/
def start (g : Generator) (graph : Graph) : Draft :=
  let s := g.setting graph
  let names := (graph.nodesOfKind Kind.var.name).map s.variableName
  { depth := routineDepth
    names := { reserved := names.filter (· ≠ "") } }

/-- The state after all entry nodes have been walked. -/
def draft (g : Generator) (graph : Graph) : Draft :=
  let pass := (g.setting graph).entryNodes.forM (g.visit graph)
  (pass.run (g.start graph)).2

/-- The lines before the body of the routine. -/
def header (g : Generator) (graph : Graph) : List Step :=
  let keyword := if (g.setting graph).requiresAsync then "async " else ""
  (if g.options.emitStrictHeader then [.line "\"use strict\"", .blank] else []) ++
    [.line s!"{keyword}function main() \x7b", .indent]

/-- The declaration that opens the body, for variables that are first used inside of a block. -/
def hoistedLine (d : Draft) : List Step :=
  if d.hoisted.isEmpty then [] else [.line (Statement.declareAll d.hoisted).text]

def footer : List Step :=
  [.dedent, .close "\x7d", .blank, .line "main()"]

/-- All that is written for a graph, step by step. -/
def steps (g : Generator) (graph : Graph) : List Step :=
  let d := g.draft graph
  g.header graph ++ hoistedLine d ++ d.log.toList.filterMap Event.step? ++ footer

/-- The source text of a graph. -/
def generate (g : Generator) (graph : Graph) : String :=
  textOf g.options.emitSemicolons (g.steps graph)

/-- The notes that emitters left. -/
def notes (g : Generator) (graph : Graph) : List Json.Value :=
  (g.draft graph).log.toList.filterMap fun
    | .note content => some content
    | _ => none

end Generator

end ScriptGraph.Source
