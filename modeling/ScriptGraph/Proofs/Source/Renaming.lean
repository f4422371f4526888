import ScriptGraph.Proofs.Graph.Renaming
import ScriptGraph.Proofs.Source.Simulation
import ScriptGraph.Proofs.Source.Traversal

/-! # Text with kinds of the user's

A generator can be told to write nodes of a kind of the user's like nodes of a built-in kind. The
text is then the same as if the nodes were of the built-in kind, unless the name of the kind shows
in it: in the comments around nodes, and where a conversion lacks its input. Variables and constants
are recognised by their names wherever an input is read, so they cannot go by another.
-/

namespace ScriptGraph.Source

/-- Two passes look the same from related nodes. -/
structure Setting.Resembles (N : Node → Node → Prop) (s s' : Setting) : Prop extends
    s.toWorkspace.Resembles N s'.toWorkspace where
  options : s.options = s'.options
  reassigned : s.isReassigned = s'.isReassigned

namespace Setting.Resembles

variable {N : Node → Node → Prop} {s s' : Setting} {v v' : Node} (h : s.Resembles N s')
  (hv : N v v')
include h hv

theorem props : (s.props v).Agree (s'.props v') :=
  h.properties hv

theorem variableName_eq : s.variableName v = s'.variableName v' :=
  (h.props hv).text_eq "name"

theorem declareVariable_eq (assigned : Option String) :
    s.declareVariable v assigned = s'.declareVariable v' assigned := by
  unfold Setting.declareVariable
  dsimp only
  simp only [(h.props hv).text_eq, h.options, h.reassigned]

/-- What one producer behind an input gives, the other gives as well. -/
theorem input_eq {index : Nat} (hi : index ≠ 0) : s.input v index = s'.input v' index := by
  have found := h.producer hv hi
  have declared : s.declareProducer v index = s'.declareProducer v' index := by
    unfold Setting.declareProducer
    generalize s.producer? v index = source at found
    generalize s'.producer? v' index = source' at found
    cases found with
    | none => rfl
    | @some p p' hp =>
      obtain ⟨hn, same | other, -⟩ := hp
      · dsimp only
        rw [h.variableName_eq hn, h.declareVariable_eq hn, same]
      · have unread := other .var (by simp)
        simp only [unread.1, unread.2, false_and, if_false]
  have resolved (d : Draft) : s.resolveInput (s.outputSource d) v index =
      s'.resolveInput (s'.outputSource d) v' index := by
    unfold Workspace.resolveInput Setting.outputSource
    generalize s.producer? v index = source at found
    generalize s'.producer? v' index = source' at found
    cases found with
    | none => rfl
    | @some p p' hp =>
      obtain ⟨hn, same | other, output⟩ := hp
      · dsimp only
        rw [(h.props hn).nonEmpty?_eq, (h.props hn).text_eq, (h.props hn).text_eq, h.id hn, output,
          same]
      · have unreferenced := other .var (by simp)
        have unspelled := other .constant (by simp)
        simp only [unreferenced.1, unreferenced.2, unspelled.1, unspelled.2, if_false, h.id hn,
          output]
  unfold Setting.input
  simp only [declared, resolved, h.id hv]

/-- Emitters do the same at related nodes. -/
theorem similar : s.Similar Eq s' v v' where
  props := h.props hv
  log _ := .of_eq rfl
  indent := .of_eq rfl
  dedent := .of_eq rfl
  freshName _ := .of_eq rfl
  isDeclared _ := .of_eq rfl
  record _ _ := .of_eq (by unfold record; rw [h.id hv])
  input hi := .of_eq (h.input_eq hv hi)
  declareVariable assigned := .of_eq (h.declareVariable_eq hv assigned)
  declareResult _ _ := .of_eq (by unfold Setting.resultKeyword; rw [h.options])
  recordPrimary _ := .of_eq (by unfold Setting.recordPrimary record; rw [h.ports hv, h.id hv])

theorem branch {visit visit' : Node → EmitM Unit}
    (hvisit : ∀ u u', N u u' → Simulates Eq (visit u) (visit' u')) (port : Nat) :
    Simulates Eq (s.branch visit v port) (s'.branch visit' v' port) :=
  .forM₂ (h.successors hv (some port)) hvisit

end Setting.Resembles

/-! ### Passes -/

namespace Generator

variable {options : Options} {kind : Kind} {user : String} {g g' : Graph} {v v' : Node}

/-- The generator that writes nodes of the user's kind like those of a built-in kind. -/
abbrev mapped (user : String) (kind : Kind) (options : Options) : Generator :=
  (builtin options).mapKind user kind.name

theorem emitters_mapped (text : String) :
    (mapped user kind options).emitters.get? text =
      if text = user then some (Emit.builtin kind) else (Kind.ofName? text).map Emit.builtin := by
  unfold mapped mapKind
  rw [Kind.ofName?_name]
  dsimp only
  rw [Table.get?_insert, Table.get?_ofKinds]

/-- The names of variables, and which of them are given other values, stay the same. -/
theorem variables_eq (hu : Kind.ofName? user = none) (hk : kind ≠ .var)
    (h : g.Renames kind.name user g') :
    g.nodesOfKind Kind.var.name = g'.nodesOfKind Kind.var.name ∧
      ∀ v ∈ g.nodesOfKind Kind.var.name, ((builtin options).setting g).variableName v =
        ((mapped user kind options).setting g').variableName v := by
  refine ⟨h.nodesOfKind_eq hu hk, fun v hv => ?_⟩
  have var : v.kind = Kind.var.name := by simpa using (List.mem_filter.mp hv).2
  have kept : v.kind ≠ user := by
    rintro rfl
    rw [var, Kind.ofName?_name] at hu
    cases hu
  exact (Node.Renamed.kept kept : v.Renamed kind.name user v).props_agree.text_eq "name"

theorem isReassigned_eq (hu : Kind.ofName? user = none) (hk : kind ≠ .var)
    (h : g.Renames kind.name user g') : ((builtin options).setting g).isReassigned =
      ((mapped user kind options).setting g').isReassigned := by
  obtain ⟨nodes, names⟩ := @variables_eq options kind user g g' hu hk h
  funext name
  refine Setting.isReassigned_eq_of_perm (.of_eq ?_) fun v _ => h.edgeInto_eq v.id 1
  change (g.nodesOfKind Kind.var.name).filter _ = (g'.nodesOfKind Kind.var.name).filter _
  rw [← nodes]
  exact List.filter_congr fun v hv => by rw [names v hv]

theorem start_eq (hu : Kind.ofName? user = none) (hk : kind ≠ .var)
    (h : g.Renames kind.name user g') :
    (builtin options).start g = (mapped user kind options).start g' := by
  obtain ⟨nodes, names⟩ := @variables_eq options kind user g g' hu hk h
  unfold start
  dsimp only
  rw [List.map_congr_left names, nodes]

theorem resembles (hu : Kind.ofName? user = none) (hk : kind ≠ .var ∧ kind ≠ .constant)
    (h : g.Renames kind.name user g') :
    ((builtin options).setting g).Resembles (Node.Renamed kind.name user)
      ((mapped user kind options).setting g') where
  toResembles := Graph.Renames.resembles h hu (.inl hk)
  options := rfl
  reassigned := isReassigned_eq hu hk.1 h

/-- Without the comments around them, nodes are written alike whatever name they go by. -/
theorem simulates_emit_mapped (hc : options.emitComments = false) (hu : Kind.ofName? user = none)
    (hk : kind ≠ .var ∧ kind ≠ .constant) (hn : kind ∉ conversions)
    (h : g.Renames kind.name user g') (hv : v.Renamed kind.name user v')
    {visit visit' : Node → EmitM Unit}
    (hvisit : ∀ u u', u.Renamed kind.name user u' → Simulates Eq (visit u) (visit' u')) :
    Simulates Eq ((builtin options).emit ((builtin options).setting g) visit v)
      ((mapped user kind options).emit ((mapped user kind options).setting g') visit' v') := by
  have alike : ((builtin options).setting g).Resembles (Node.Renamed kind.name user)
      ((mapped user kind options).setting g') := resembles hu hk h
  have uncommented : (mapped user kind options).options.emitComments = false := hc
  have written (own : Kind) (hown : own ∈ conversions → v.kind = v'.kind) :=
    simulates_builtin (alike.similar hv) (alike.branch hv hvisit) own hown
  unfold emit
  rw [emitters_mapped, emitters_builtin]
  simp only [hc, uncommented, Bool.false_eq_true, if_false]
  refine (Simulates.of_eq (by rw [hv.id_eq])).bind fun _ => ?_
  cases hv with
  | kept hne =>
    rw [if_neg hne]
    cases Kind.ofName? v.kind with
    | some own => exact (written own fun _ => rfl).bind fun flow => .pure flow
    | none => exact .of_eq rfl
  | renamed hkind =>
    rw [if_pos rfl, hkind, Kind.ofName?_name]
    exact (written kind fun hmem => absurd hmem hn).bind fun flow => .pure flow

theorem draft_mapped (hc : options.emitComments = false) (hu : Kind.ofName? user = none)
    (hk : kind ≠ .var ∧ kind ≠ .constant) (hn : kind ∉ conversions)
    (h : g.Renames kind.name user g') :
    (builtin options).draft g = (mapped user kind options).draft g' := by
  have visited (v v' : Node) (hv : v.Renamed kind.name user v') :
      Simulates Eq ((builtin options).visit g v) ((mapped user kind options).visit g' v') := by
    unfold Generator.visit
    rw [h.size_eq]
    refine .walk₂ (fun _ _ port hu => h.controlSuccessors_rel hu port) ?_ ?_ _ v v' hv
    · intro u u' hn
      rw [hn.id_eq]
      exact .of_eq rfl
    · intro visit visit' hvisit u u' hu'
      exact simulates_emit_mapped hc hu hk hn h hu' hvisit
  have pass : Simulates Eq
      (((builtin options).setting g).entryNodes.forM ((builtin options).visit g))
      (((mapped user kind options).setting g').entryNodes.forM
        ((mapped user kind options).visit g')) :=
    .forM₂ h.entryNodes_rel visited
  exact (pass _ _ (start_eq hu hk.1 h)).2

end Generator

/-- Some nodes of a built-in kind may go by a kind of the user's that is generated like it. The text
without comments around nodes stays the same, if the kind is neither that of variables nor that of
constants nor that of a conversion. -/
theorem generate_of_renames {options : Options} (hc : options.emitComments = false) {kind : Kind}
    {user : String} (hu : Kind.ofName? user = none)
    (hk : kind ∉ [Kind.var, .constant, .jsonParse, .jsonStringify, .base64Encode, .base64Decode])
    {g g' : Graph} (h : g.Renames kind.name user g') :
    ((builtin options).mapKind user kind.name).generate g' = (builtin options).generate g := by
  have read : kind ≠ .var ∧ kind ≠ .constant := by
    constructor <;> rintro rfl <;> exact hk (by decide)
  have named : kind ∉ conversions := fun hm => hk (by simp_all [conversions])
  have drafted := Generator.draft_mapped hc hu read named h
  have async : ((builtin options).setting g).requiresAsync =
      ((Generator.mapped user kind options).setting g').requiresAsync := h.requiresAsync_eq
  have header : (builtin options).header g = (Generator.mapped user kind options).header g' := by
    unfold Generator.header
    rw [async]
    rfl
  change (Generator.mapped user kind options).generate g' = _
  unfold Generator.generate Generator.steps
  rw [← header, ← drafted]
  rfl

/-- The nodes of a graph that shows a variable added to its double. One of the nodes that add may be
of any kind. -/
def summingNodes (kind : String) : List Node :=
  [{ id := .ofNat 1, kind := Kind.onStart.name }, { id := .ofNat 2, kind },
    { id := .ofNat 3, kind := Kind.mathOperation.name },
    { id := .ofNat 4, kind := Kind.log.name },
    { id := .ofNat 5, kind := Kind.var.name
      properties := [("name", .string "x"), ("initialValue", .string "a")] }]

def summing (kind : String) : Graph :=
  .ofLists (summingNodes kind)
    [.between (.ofNat 1) 0 (.ofNat 2) 0, .between (.ofNat 2) 0 (.ofNat 3) 0,
      .between (.ofNat 3) 0 (.ofNat 4) 0, .between (.ofNat 5) 1 (.ofNat 2) 1,
      .between (.ofNat 5) 1 (.ofNat 2) 2, .between (.ofNat 2) 1 (.ofNat 3) 1,
      .between (.ofNat 5) 1 (.ofNat 3) 2, .between (.ofNat 3) 1 (.ofNat 4) 1]

theorem summing_renames : (summing Kind.mathOperation.name).Renames Kind.mathOperation.name "Sum"
    (summing "Sum") where
  nodes := .cons (.kept (by decide)) <| .cons (.renamed rfl) <| .cons (.kept (by decide)) <|
    .cons (.kept (by decide)) <| .cons (.kept (by decide)) .nil
  edges := rfl

theorem summing_generate :
    Options.minimal.emitComments = false ∧ Kind.ofName? "Sum" = none ∧
      Kind.mathOperation ∉
        [Kind.var, .constant, .jsonParse, .jsonStringify, .base64Encode, .base64Decode] ∧
      (summing Kind.mathOperation.name).Renames Kind.mathOperation.name "Sum" (summing "Sum") ∧
      ((builtin .minimal).mapKind "Sum" Kind.mathOperation.name).generate (summing "Sum") =
        (builtin .minimal).generate (summing Kind.mathOperation.name) ∧
      ((builtin .minimal).mapKind "Sum" Kind.mathOperation.name).generate (summing "Sum") =
        "function main() \x7b\n  let x = \"a\"\n  console.log(((x + x) + x))\n\x7d\n\nmain()" := by
  have new : Kind.ofName? "Sum" = none := by decide
  have allowed : Kind.mathOperation ∉
      [Kind.var, .constant, .jsonParse, .jsonStringify, .base64Encode, .base64Decode] := by decide
  exact ⟨rfl, new, allowed, summing_renames,
    generate_of_renames rfl new allowed summing_renames, by decide +kernel⟩

end ScriptGraph.Source
